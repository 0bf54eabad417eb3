import Mathlib
import Parley.Proofs.Draft.Finish
import Parley.Proofs.Draft.Refusals
import Parley.Proofs.Tree.Reference

/-!
# Operations on a tree

A tree is changed one entity at a time, directly or through a draft, by statements, and by finishing a draft.  Where every
entity stands under its own identifier, any row of such operations leaves it so, and every one of them answers and changes
the tree as a finite map from kinds and identifiers to entities would be changed.
-/

namespace Parley

open Script (Fields Statement Verb)

/-! ## Operations and answers -/

/-- What can be asked of a tree. -/
inductive Operation where
  /-- Add an entity whose identifier is free; a refusal is reported under the number. -/
  | insert (index : Nat) (entity : Entity)
  /-- Exchange an entity for one with the same identifier. -/
  | replace (entity : Entity)
  /-- Take an entity out. -/
  | remove (kind : Kind) (id : String)
  /-- Add an entity to a draft of the tree. -/
  | enter (entity : Entity)
  /-- Do what a statement says to a draft of the tree, with identifiers of the library's own of some width. -/
  | apply (width : Nat) (statement : Statement)
  /-- Finish a draft of the tree. -/
  | finish

/-- The kind of entities that an operation is about. -/
def Operation.kind : Operation → Kind
  | .insert _ entity => entity.kind
  | .replace entity => entity.kind
  | .remove kind _ => kind
  | .enter entity => entity.kind
  | .apply _ statement => statement.kind
  | .finish => .dialogue

/-- What is said to an operation. -/
inductive Answer where
  | done
  /-- What was there before. -/
  | gave (old : Option Entity)
  | taken (duplicate : DuplicateId)
  | refused (error : BuildError)

/-- The answer refuses. -/
def Answer.IsRefusal : Answer → Prop
  | .done => False
  | .gave old => old = none
  | .taken _ => True
  | .refused _ => True

/-- What is said to a change of a draft in place, and the tree that the draft has then, refused or not. -/
def Draft.Edit.outcome
    {α : Type}
    (edit : Edit α)
    (answer : α → Answer)
    (draft : Draft) :
    Answer × Tree :=
  match edit draft with
  | .ok value after => (answer value, after.tree)
  | .error error after => (.refused error, after.tree)

namespace Tree

open Draft (Edit)

/-- What is said to an operation on a tree, and the tree after it. -/
def perform (tree : Tree) : Operation → Answer × Tree
  | .insert index entity => Edit.outcome (Edit.insert index entity) (fun _ => .done) (Draft.ofTree tree)
  | .replace entity => Edit.outcome (Edit.replace entity) .gave (Draft.ofTree tree)
  | .remove kind id => Edit.outcome (Edit.remove kind id) .gave (Draft.ofTree tree)
  | .enter entity =>
    match (Draft.ofTree tree).insert entity with
    | .ok after => (.done, after.tree)
    | .error duplicate => (.taken duplicate, tree)
  | .apply width statement =>
    Edit.outcome (Edit.apply statement) (fun _ => .done) ((Draft.ofTree tree).withIdWidth width)
  | .finish => (.done, (Draft.ofTree tree).finish)

/-- The tree after operations. -/
def run (tree : Tree) (operations : List Operation) : Tree :=
  operations.foldl (fun current operation => (current.perform operation).2) tree

/-- Operations, each with what is said to it. -/
def transcript (tree : Tree) : List Operation → List (Operation × Answer)
  | [] => []
  | operation :: rest => (operation, (tree.perform operation).1) :: (tree.perform operation).2.transcript rest

end Tree

/-! ## The same on a finite map -/

namespace Store

/-- A name stands over an entity of a kind, or an entity points at it. -/
def Mentions (store : Store) (kind : Kind) (name : String) : Prop :=
  (kind, name) ∈ store ∨ ∃ place entity, store.lookup place = some entity ∧ entity.PointsAt kind name

/-- The least number that no name in use stands for. -/
def IsNext (store : Store) (kind : Kind) (number : Nat) : Prop :=
  IsLeast {number | ∀ name, store.Mentions kind name → Identifier.number? name ≠ some number} number

/-- The identifier under which a statement creates an entity: the given one, or one of the library's own. -/
inductive Names (store : Store) (width : Nat) (statement : Statement) : String → Prop
  | given {id : String} : statement.id = some id → Names store width statement id
  | made {number : Nat} :
      statement.id = none → store.IsNext statement.kind number →
        Names store width statement (Identifier.ofNumber number (max width 1))

/-- What a statement that is carried out makes of a finite map. -/
inductive Obeys (store : Store) (width : Nat) (statement : Statement) : Store → Prop
  /-- Only what is absent is created. -/
  | create {id : String} {fields : Fields} :
      statement.verb = .create → statement.fields = some fields → fields.kind = statement.kind →
        store.Names width statement id → (statement.kind, id) ∉ store →
          Obeys store width statement (store.insert (statement.kind, id) (fields.toEntity id Context.empty))
  /-- Only what is present is updated, and it keeps its context. -/
  | update {id : String} {fields : Fields} {old : Entity} :
      statement.verb = .update → statement.fields = some fields → fields.kind = statement.kind →
        statement.id = some id → store.lookup (statement.kind, id) = some old →
          Obeys store width statement (store.insert (statement.kind, id) (fields.toEntity id old.context))
  /-- Only what is present is deleted. -/
  | delete {id : String} :
      statement.verb = .delete → statement.id = some id → (statement.kind, id) ∈ store →
        Obeys store width statement (store.erase (statement.kind, id))

/-- The same, but that every dialogue also lists, in order and behind what it listed before, the actions that it owns and did
not list. -/
structure Linked (store after : Store) : Prop where
  keys_eq : after.keys = store.keys
  /-- Scenes and actions are as before. -/
  lookup_eq : ∀ kind id, kind ≠ .dialogue → after.lookup (kind, id) = store.lookup (kind, id)
  lists : ∀ id dialogue, store.lookup (.dialogue, id) = some (.dialogue dialogue) →
    ∃ added, after.lookup (.dialogue, id) = some (.dialogue (dialogue.withActions added)) ∧ added.Pairwise (· < ·) ∧
      ∀ name, name ∈ added ↔
        name ∉ dialogue.actions ∧ ∃ action, store.lookup (.action, name) = some (.action action) ∧ action.owner = id

/-- What an operation on a finite map says and leaves. -/
inductive Step (store : Store) : Operation → Answer → Store → Prop
  | insert {index : Nat} {entity : Entity} :
      entity.place ∉ store → Step store (.insert index entity) .done (store.insert entity.place entity)
  | insertTaken {index : Nat} {entity : Entity} :
      entity.place ∈ store →
        Step store (.insert index entity) (.refused (.duplicateId index entity.kind entity.id)) store
  | replace {entity old : Entity} :
      store.lookup entity.place = some old →
        Step store (.replace entity) (.gave (some old)) (store.insert entity.place entity)
  | replaceAbsent {entity : Entity} : entity.place ∉ store → Step store (.replace entity) (.gave none) store
  | remove {kind : Kind} {id : String} {old : Entity} :
      store.lookup (kind, id) = some old → Step store (.remove kind id) (.gave (some old)) (store.erase (kind, id))
  | removeAbsent {kind : Kind} {id : String} : (kind, id) ∉ store → Step store (.remove kind id) (.gave none) store
  | enter {entity : Entity} : entity.place ∉ store → Step store (.enter entity) .done (store.insert entity.place entity)
  | enterTaken {entity : Entity} :
      entity.place ∈ store → Step store (.enter entity) (.taken ⟨entity.kind, entity.id⟩) store
  | apply {width : Nat} {statement : Statement} {after : Store} :
      store.Obeys width statement after → Step store (.apply width statement) .done after
  | applyRefused {width : Nat} {statement : Statement} {error : BuildError} :
      (∀ after, ¬store.Obeys width statement after) → Step store (.apply width statement) (.refused error) store
  | finish {after : Store} : store.Linked after → Step store .finish .done after

/-- Operations on a finite map, one after another. -/
inductive Run : Store → List (Operation × Answer) → Store → Prop
  | nil (store : Store) : Run store [] store
  | cons {store middle after : Store} {operation : Operation} {answer : Answer} {rest : List (Operation × Answer)} :
      store.Step operation answer middle → Run middle rest after → Run store ((operation, answer) :: rest) after

end Store

/-! ## Statements -/

theorem Script.Fields.place_toEntity
    {fields : Fields}
    {kind : Kind}
    (same : fields.kind = kind)
    (id : String)
    (context : Context) :
    (fields.toEntity id context).place = (kind, id) := by
  rw [Entity.place, Fields.kind_toEntity, Fields.id_toEntity, same]

namespace Tree

open Draft (Edit)

variable {tree after : Tree} {kind : Kind} {id : String} {entity : Entity} {width : Nat} {statement : Statement}
  {store : Store} {operation : Operation} {answer : Answer}

/-- A draft of a tree with some width of identifiers. -/
def drafted (tree : Tree) (width : Nat) : Draft := (Draft.ofTree tree).withIdWidth width

@[simp] theorem drafted_tree
    (tree : Tree)
    (width : Nat) :
    (tree.drafted width).tree = tree := rfl

theorem mentions_store_iff
    {name : String} :
    tree.store.Mentions kind name ↔ tree.Mentions kind name := by
  simp only [Store.Mentions, Mentions, mem_store_iff, lookup_store]
  refine or_congr_right ⟨?_, ?_⟩
  · rintro ⟨place, entity, found, points⟩
    exact ⟨entity, mem_entities_iff.mpr ⟨place.2, kind_of_get? found ▸ found⟩, points⟩
  · rintro ⟨entity, member, points⟩
    obtain ⟨key, found⟩ := mem_entities_iff.mp member
    exact ⟨(entity.kind, key), entity, found, points⟩

theorem isNext_store_iff
    {number : Nat} :
    tree.store.IsNext kind number ↔ number = (tree.drafted width).freeNumber kind := by
  have least : tree.store.IsNext kind ((tree.drafted width).freeNumber kind) := by
    simpa only [Store.IsNext, mentions_store_iff, Takes, not_exists, not_and, drafted_tree] using
      Draft.isLeast_freeNumber (tree.drafted width) kind
  exact ⟨fun other => other.unique least, fun same => same ▸ least⟩

theorem names_store_iff :
    tree.store.Names width statement id ↔ (tree.drafted width).createdId statement = id := by
  rw [Draft.createdId]
  constructor
  · rintro (given | ⟨unnamed, next⟩)
    · rw [given, Option.getD_some]
    · rw [unnamed, Option.getD_none, isNext_store_iff.mp next]
      rfl
  · rintro rfl
    cases named : statement.id with
    | some id => exact .given named
    | none => exact .made named (isNext_store_iff.mpr rfl)

/-- A statement is carried out on a draft of a tree exactly if it can be on the finite map, and makes the same of both. -/
theorem obeys_store_iff :
    tree.store.Obeys width statement store ↔
      ∃ changed, (tree.drafted width).apply statement = .ok changed ∧ store = changed.tree.store := by
  unfold Draft.apply
  constructor
  · intro obeys
    cases obeys with
    | create verb given same names free =>
        obtain rfl := names_store_iff.mp names
        rw [mem_store_iff_get?_ne_none, not_not, ← same] at free
        simp only [verb]
        refine ⟨_, Draft.create_eq_ok_iff.mpr ⟨_, given, same, free, rfl⟩, ?_⟩
        exact Fields.place_toEntity same _ _ ▸ (store_put tree _).symm
    | update verb given same named found =>
        rw [lookup_store] at found
        simp only [verb]
        refine ⟨_, Draft.update_eq_ok_iff.mpr ⟨_, _, _, named, given, same, found, rfl⟩, ?_⟩
        exact Fields.place_toEntity same _ _ ▸ (store_put tree _).symm
    | delete verb named there =>
        obtain ⟨old, found⟩ := Finmap.mem_iff.mp there
        rw [lookup_store] at found
        simp only [verb]
        exact ⟨_, Draft.delete_eq_ok_iff.mpr ⟨_, _, named, found, rfl⟩, (store_erase tree _ _).symm⟩
  · rintro ⟨changed, done, rfl⟩
    split at done <;> rename_i verb
    · obtain ⟨fields, given, same, free, rfl⟩ := Draft.create_eq_ok_iff.mp done
      rw [same, ← not_ne_iff, ← mem_store_iff_get?_ne_none] at free
      have made := Store.Obeys.create verb given same (names_store_iff.mpr rfl) free
      rwa [← Fields.place_toEntity same _ Context.empty, ← store_put] at made
    · obtain ⟨id, fields, old, named, given, same, found, rfl⟩ := Draft.update_eq_ok_iff.mp done
      have made : tree.store.Obeys width statement _ := .update verb given same named ((lookup_store tree (_, id)).trans found)
      rwa [← Fields.place_toEntity same _ old.context, ← store_put] at made
    · obtain ⟨id, old, named, found, rfl⟩ := Draft.delete_eq_ok_iff.mp done
      have there : (statement.kind, id) ∈ tree.store := mem_store_iff_get?_ne_none.mpr (found ▸ Option.some_ne_none old)
      have made : tree.store.Obeys width statement _ := .delete verb named there
      rwa [← store_erase] at made

/-! ## Finishing -/

/-- Finishing a draft of a tree in which every entity stands under its own identifier is linking the finite map. -/
theorem linked_finish
    (keyed : tree.Keyed) :
    tree.store.Linked (Draft.ofTree tree).finish.store := by
  obtain ⟨scenes, actions, keys⟩ := Draft.finish_frame (Draft.ofTree tree)
  have ids (kind : Kind) : (Draft.ofTree tree).finish.ids kind = tree.ids kind := by
    cases kind with
    | scene => exact congrArg Table.keys scenes
    | dialogue => exact keys
    | action => exact congrArg Table.keys actions
  refine ⟨?_, fun kind id other => ?_, fun id dialogue found => ?_⟩
  · rw [keys_store, keys_store, places, places, ids, ids, ids]
  · rw [lookup_store, lookup_store]
    cases kind with
    | scene => exact congrArg (fun table : Table Scene => (table.get? id).map Entity.scene) scenes
    | dialogue => exact absurd rfl other
    | action => exact congrArg (fun table : Table Action => (table.get? id).map Entity.action) actions
  · rw [lookup_store] at found
    obtain ⟨_, there, same⟩ := get?_dialogue_eq_some_iff.mp found
    cases same
    refine ⟨Draft.unlistedIds tree id, ?_, Draft.pairwise_unlistedIds keyed id, fun name => ?_⟩
    · rw [lookup_store, get?_dialogue_eq_some_iff]
      refine ⟨_, ?_, rfl⟩
      rw [Draft.dialogues_get?_finish keyed]
      exact congrArg (Option.map _) there
    · rw [Draft.mem_unlistedIds_iff keyed there]
      simp [lookup_store, get?]

/-! ## One operation -/

@[simp] theorem ofTree_tree
    (tree : Tree) :
    (Draft.ofTree tree).tree = tree := rfl

theorem insert_cases
    (tree : Tree)
    (entity : Entity) :
    (entity.place ∈ tree.store ∧ tree.insert entity = .error ⟨entity.kind, entity.id⟩) ∨
      (entity.place ∉ tree.store ∧ tree.insert entity = .ok (tree.put entity)) := by
  rw [insert, Entity.place, ← (holds_store tree).contains_iff]
  by_cases there : tree.contains entity.kind entity.id = true
  · exact .inl ⟨there, if_pos there⟩
  · exact .inr ⟨there, if_neg there⟩

theorem perform_insert
    (tree : Tree)
    (index : Nat)
    (entity : Entity) :
    tree.perform (.insert index entity) = match tree.insert entity with
      | .ok after => (.done, after)
      | .error duplicate => (.refused (.duplicateId index duplicate.kind duplicate.id), tree) := by
  rw [perform, Edit.outcome, Edit.insert_eq, Draft.insert, ofTree_tree]
  cases tree.insert entity <;> rfl

theorem perform_enter
    (tree : Tree)
    (entity : Entity) :
    tree.perform (.enter entity) = match tree.insert entity with
      | .ok after => (.done, after)
      | .error duplicate => (.taken duplicate, tree) := by
  rw [perform, Draft.insert, ofTree_tree]
  cases tree.insert entity <;> rfl

theorem perform_replace
    (tree : Tree)
    (entity : Entity) :
    tree.perform (.replace entity) = match tree.replace? entity with
      | some (old, after) => (.gave (some old), after)
      | none => (.gave none, tree) := by
  rw [perform, Edit.outcome, Edit.replace_eq, ofTree_tree]
  cases tree.replace? entity <;> rfl

theorem perform_remove
    (tree : Tree)
    (kind : Kind)
    (id : String) :
    tree.perform (.remove kind id) = match tree.remove? kind id with
      | some (old, after) => (.gave (some old), after)
      | none => (.gave none, tree) := by
  rw [perform, Edit.outcome, Edit.remove_eq, ofTree_tree]
  cases tree.remove? kind id <;> rfl

theorem perform_apply
    (tree : Tree)
    (width : Nat)
    (statement : Statement) :
    tree.perform (.apply width statement) = match (tree.drafted width).apply statement with
      | .ok changed => (.done, changed.tree)
      | .error error => (.refused error, tree) := by
  rw [perform, ← drafted, Edit.outcome, Edit.apply_eq]
  cases (tree.drafted width).apply statement <;> rfl

/-- All that an operation can do to a tree: nothing if it is refused, else to put or erase one entity of its kind or to finish
a draft. -/
inductive Changes (tree : Tree) (operation : Operation) : Answer → Tree → Prop
  | refused {answer : Answer} : answer.IsRefusal → Changes tree operation answer tree
  | put {answer : Answer} {entity : Entity} :
      ¬answer.IsRefusal → entity.kind = operation.kind → Changes tree operation answer (tree.put entity)
  | erase {answer : Answer} {id : String} :
      ¬answer.IsRefusal → Changes tree operation answer (tree.erase operation.kind id)
  | finish : operation = .finish → Changes tree operation .done (Draft.ofTree tree).finish

theorem changes_apply
    {changed : Draft}
    (done : (tree.drafted width).apply statement = .ok changed) :
    Changes tree (.apply width statement) .done changed.tree := by
  unfold Draft.apply at done
  split at done
  · obtain ⟨fields, _, same, _, rfl⟩ := Draft.create_eq_ok_iff.mp done
    exact .put not_false ((Fields.kind_toEntity fields _ _).trans same)
  · obtain ⟨_, fields, _, _, _, same, _, rfl⟩ := Draft.update_eq_ok_iff.mp done
    exact .put not_false ((Fields.kind_toEntity fields _ _).trans same)
  · obtain ⟨_, _, _, _, rfl⟩ := Draft.delete_eq_ok_iff.mp done
    exact .erase not_false

/-- An operation does to a tree what it does to the finite map of its tables, and nothing else. -/
theorem perform_spec
    (keyed : tree.Keyed)
    (operation : Operation) :
    tree.store.Step operation (tree.perform operation).1 (tree.perform operation).2.store ∧
      Changes tree operation (tree.perform operation).1 (tree.perform operation).2 := by
  cases operation with
  | insert index entity =>
      rw [perform_insert]
      rcases insert_cases tree entity with ⟨there, refused⟩ | ⟨free, inserted⟩
      · rw [refused]
        exact ⟨.insertTaken there, .refused trivial⟩
      · rw [inserted]
        exact ⟨store_put tree entity ▸ .insert free, .put not_false rfl⟩
  | enter entity =>
      rw [perform_enter]
      rcases insert_cases tree entity with ⟨there, refused⟩ | ⟨free, inserted⟩
      · rw [refused]
        exact ⟨.enterTaken there, .refused trivial⟩
      · rw [inserted]
        exact ⟨store_put tree entity ▸ .enter free, .put not_false rfl⟩
  | replace entity =>
      rw [perform_replace, replace?]
      cases found : tree.get? entity.kind entity.id with
      | none => exact ⟨.replaceAbsent (mt mem_store_iff_get?_ne_none.mp (not_not.mpr found)), .refused rfl⟩
      | some old =>
          refine ⟨?_, .put (Option.some_ne_none old) rfl⟩
          rw [Option.map_some, store_put]
          exact .replace ((lookup_store tree entity.place).trans found)
  | remove kind id =>
      rw [perform_remove, remove?]
      cases found : tree.get? kind id with
      | none => exact ⟨.removeAbsent (mt mem_store_iff_get?_ne_none.mp (not_not.mpr found)), .refused rfl⟩
      | some old =>
          refine ⟨?_, .erase (Option.some_ne_none old)⟩
          rw [Option.map_some, store_erase]
          exact .remove ((lookup_store tree (kind, id)).trans found)
  | apply width statement =>
      rw [perform_apply]
      cases done : (tree.drafted width).apply statement with
      | ok changed => exact ⟨.apply (obeys_store_iff.mpr ⟨changed, done, rfl⟩), changes_apply done⟩
      | error error =>
          refine ⟨.applyRefused fun store obeys => ?_, .refused trivial⟩
          obtain ⟨changed, other, _⟩ := obeys_store_iff.mp obeys
          rw [done] at other
          cases other
  | finish => exact ⟨.finish (linked_finish keyed), .finish rfl⟩

theorem Changes.keyed
    (changes : Changes tree operation answer after)
    (keyed : tree.Keyed) :
    after.Keyed := by
  cases changes with
  | refused _ => exact keyed
  | put _ _ => exact keyed.put _
  | erase _ => exact keyed.erase _ _
  | finish _ => exact Draft.keyed_foldl_link keyed _

theorem Changes.eq_of_isRefusal
    (changes : Changes tree operation answer after)
    (refusal : answer.IsRefusal) :
    after = tree := by
  cases changes with
  | refused _ => rfl
  | put accepted _ => exact absurd refusal accepted
  | erase accepted => exact absurd refusal accepted
  | finish _ => exact False.elim refusal

theorem Changes.sameTable
    (changes : Changes tree operation answer after)
    (other : kind ≠ operation.kind) :
    SameTable after tree kind := by
  cases changes with
  | refused _ => exact sameTable_of_get? fun _ => rfl
  | put _ same => exact sameTable_put (same ▸ other)
  | erase _ => exact sameTable_erase other
  | finish finishes =>
      subst finishes
      obtain ⟨scenes, actions, _⟩ := Draft.finish_frame (Draft.ofTree tree)
      cases kind with
      | scene => exact scenes
      | dialogue => exact absurd rfl other
      | action => exact actions

/-! ## Rows of operations -/

theorem keyed_run
    (keyed : tree.Keyed)
    (operations : List Operation) :
    (tree.run operations).Keyed := by
  induction operations generalizing tree with
  | nil => exact keyed
  | cons operation rest inductionHypothesis =>
      exact inductionHypothesis ((perform_spec keyed operation).2.keyed keyed)

theorem run_store
    (keyed : tree.Keyed)
    (operations : List Operation) :
    tree.store.Run (tree.transcript operations) (tree.run operations).store := by
  induction operations generalizing tree with
  | nil => exact .nil _
  | cons operation rest inductionHypothesis =>
      obtain ⟨step, changes⟩ := perform_spec keyed operation
      exact .cons step (inductionHypothesis (changes.keyed keyed))

/-- The changes that give back another tree say the same as those in place. -/
structure ByValue (tree : Tree) : Prop where
  insert_iff : ∀ index entity after,
    tree.insert entity = .ok after ↔ tree.perform (.insert index entity) = (.done, after)
  replace_iff : ∀ entity old after,
    tree.replace? entity = some (old, after) ↔ tree.perform (.replace entity) = (.gave (some old), after)
  remove_iff : ∀ kind id old after,
    tree.remove? kind id = some (old, after) ↔ tree.perform (.remove kind id) = (.gave (some old), after)

theorem byValue
    (tree : Tree) :
    tree.ByValue := by
  refine ⟨fun index entity after => ?_, fun entity old after => ?_, fun kind id old after => ?_⟩
  · rw [perform_insert]
    cases tree.insert entity <;> simp
  · rw [perform_replace]
    cases tree.replace? entity <;> simp [Prod.ext_iff]
  · rw [perform_remove]
    cases tree.remove? kind id <;> simp [Prod.ext_iff]

/-- Where every entity stands under its own identifier, it does so after any row of operations on the tree.  Each operation
says what the finite map from kinds and identifiers to entities says to it, and leaves the tree that answers as this map does
then.  A refused operation leaves all tables as they are, and no operation touches a table of another kind than its own;
finishing a draft touches the lists of dialogues alone. -/
theorem run_agrees_with_store
    (keyed : tree.Keyed)
    (operations : List Operation) :
    (tree.run operations).Keyed ∧
      tree.store.Run (tree.transcript operations) (tree.run operations).store ∧
        (tree.run operations).Holds (tree.run operations).store ∧
          (tree.run operations).ByValue ∧
            ∀ operation answer after, (tree.run operations).perform operation = (answer, after) →
              (answer.IsRefusal → after = tree.run operations) ∧
                ∀ kind, kind ≠ operation.kind → SameTable after (tree.run operations) kind := by
  have keyedThere := keyed_run keyed operations
  refine ⟨keyedThere, run_store keyed operations, holds_store _, byValue _, fun operation answer after performed => ?_⟩
  obtain ⟨_, changes⟩ := perform_spec keyedThere operation
  rw [performed] at changes
  exact ⟨changes.eq_of_isRefusal, fun _ => changes.sameTable⟩

/-- One action goes, another one comes under a name of the library's own, a taken name is refused, and the draft is
finished. -/
def rearrangement : List Operation :=
  [.remove .action "b", .apply 0 ⟨1, .create, .action, none, some (.action "1" .finish none), ⟨0, 1, 1⟩⟩,
    .insert 2 (.dialogue { id := "1", text := "Again" }), .finish]

/-- The actions that are there in the end are the one that came and the two that stayed, and the dialogue lists them behind
the one that it has always listed. -/
theorem run_rearrangement :
    Draft.pickTalk.Keyed ∧
      (Draft.pickTalk.run rearrangement).Keyed ∧
        Draft.pickTalk.store.Run (Draft.pickTalk.transcript rearrangement) (Draft.pickTalk.run rearrangement).store ∧
          (Draft.pickTalk.run rearrangement).store.keys.card = 4 ∧
            (Draft.pickTalk.run rearrangement).ids .action = ["0", "a", "c"] ∧
              ((Draft.pickTalk.run rearrangement).dialogues.get? "1").map Dialogue.actions =
                some ["b", "0", "a", "c"] := by
  obtain ⟨keyed, run, holds, _, _⟩ := run_agrees_with_store Draft.keyed_pickTalk rearrangement
  exact ⟨Draft.keyed_pickTalk, keyed, run, holds.size_eq ▸ by decide +kernel, by decide +kernel, by decide +kernel⟩

end Tree
end Parley
