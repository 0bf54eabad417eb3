import Mathlib.Data.List.Sort
import Parley.Tree

/-!
# What a tree holds

A tree is known by what it gives back for every kind and key.  Putting an entity into it changes the answer for that
entity alone, and a tree is rebuilt by putting its entities into the empty tree one after another.
-/

namespace Parley

/-! ## Tables -/

namespace Table

variable {α : Type} {table left right : Table α} {key : String} {value : α}

theorem lookup_cons_eq_ite
    (key other : String)
    (value : α)
    (rest : List (String × α)) :
    List.lookup other ((key, value) :: rest) = if other = key then some value else rest.lookup other := by
  by_cases same : other = key
  · simp [same]
  · simp [List.lookup_cons, beq_eq_false_iff_ne.mpr same, same]

theorem lookup_insertEntry
    (key other : String)
    (value : α)
    (entries : List (String × α)) :
    (insertEntry key value entries).lookup other = if other = key then some value else entries.lookup other := by
  induction entries with
  | nil => rw [insertEntry, lookup_cons_eq_ite]
  | cons head rest inductionHypothesis =>
      obtain ⟨headKey, headValue⟩ := head
      rw [insertEntry]
      by_cases before : key < headKey
      · rw [if_pos before, lookup_cons_eq_ite]
      · rw [if_neg before]
        by_cases equal : key = headKey
        · rw [if_pos equal, lookup_cons_eq_ite, lookup_cons_eq_ite, ← equal]
          split_ifs <;> rfl
        · rw [if_neg equal, lookup_cons_eq_ite, lookup_cons_eq_ite, inductionHypothesis]
          grind

theorem get?_insert
    (table : Table α)
    (key other : String)
    (value : α) :
    (table.insert key value).get? other = if other = key then some value else table.get? other :=
  lookup_insertEntry key other value table.entries

theorem get?_erase
    (table : Table α)
    (key other : String) :
    (table.erase key).get? other = if other = key then none else table.get? other := by
  ext value
  rw [get?_eq_some_iff]
  split_ifs with same
  · simp [erase, same]
  · simp [erase, same, get?_eq_some_iff]

@[simp] theorem get?_empty
    (key : String) :
    (empty : Table α).get? key = none := rfl

theorem nodup_entries
    (table : Table α) :
    table.entries.Nodup :=
  table.nodup_keys.of_map Prod.fst

/-- Keys in order leave no freedom: two tables that hold the same are equal. -/
theorem ext_perm
    (same : left.entries.Perm right.entries) :
    left = right :=
  ext (same.eq_of_pairwise (fun _ _ _ _ before after => absurd before (String.lt_asymm after)) left.increasing
    right.increasing)

theorem ext_get?
    (same : ∀ key, left.get? key = right.get? key) :
    left = right := by
  apply ext_perm
  rw [List.perm_ext_iff_of_nodup left.nodup_entries right.nodup_entries]
  rintro ⟨key, value⟩
  rw [← get?_eq_some_iff, ← get?_eq_some_iff, same]

/-! ### Keys -/

theorem mem_keys_insert_iff
    {other : String} :
    other ∈ (table.insert key value).keys ↔ other = key ∨ other ∈ table.keys := by
  simp only [mem_keys_iff, get?_insert]
  split_ifs with same
  · simp [same]
  · simp [same]

/-- A value under a key that is there already takes the place of the old one, and nothing else changes. -/
theorem insert_of_mem_keys
    (there : key ∈ table.keys) :
    table.insert key value = table.mapEntries fun other old => if other = key then value else old := by
  apply ext_get?
  intro other
  rw [get?_insert, get?_mapEntries]
  split_ifs with same
  · obtain ⟨old, found⟩ := mem_keys_iff.mp there
    rw [same, found, Option.map_some]
  · rw [Option.map_id']

theorem keys_insert_of_mem_keys
    (there : key ∈ table.keys) :
    (table.insert key value).keys = table.keys := by
  rw [insert_of_mem_keys there, keys_mapEntries]

theorem mem_keys_ofList_iff
    {entries : List (String × α)} :
    key ∈ (ofList entries).keys ↔ key ∈ entries.map Prod.fst := by
  have added (entries : List (String × α)) (table : Table α) :
      key ∈ (entries.foldl (fun table entry => table.insert entry.1 entry.2) table).keys ↔
        key ∈ table.keys ∨ key ∈ entries.map Prod.fst := by
    induction entries generalizing table with
    | nil => simp
    | cons entry rest inductionHypothesis =>
        rw [List.foldl_cons, inductionHypothesis, mem_keys_insert_iff, List.map_cons, List.mem_cons, or_assoc,
          or_left_comm]
  rw [ofList, added]
  exact or_iff_right List.not_mem_nil

end Table

/-! ## Entities by kind and key -/

namespace Tree

variable {tree left right : Tree} {kind : Kind} {key : String} {entity : Entity}

theorem get?_scene_eq_some_iff :
    tree.get? .scene key = some entity ↔ ∃ scene, tree.scenes.get? key = some scene ∧ .scene scene = entity :=
  Option.map_eq_some_iff

theorem get?_dialogue_eq_some_iff :
    tree.get? .dialogue key = some entity ↔
      ∃ dialogue, tree.dialogues.get? key = some dialogue ∧ .dialogue dialogue = entity :=
  Option.map_eq_some_iff

theorem get?_action_eq_some_iff :
    tree.get? .action key = some entity ↔ ∃ action, tree.actions.get? key = some action ∧ .action action = entity :=
  Option.map_eq_some_iff

theorem kind_of_get?
    (found : tree.get? kind key = some entity) :
    entity.kind = kind := by
  cases kind with
  | scene =>
      obtain ⟨_, _, rfl⟩ := get?_scene_eq_some_iff.mp found
      rfl
  | dialogue =>
      obtain ⟨_, _, rfl⟩ := get?_dialogue_eq_some_iff.mp found
      rfl
  | action =>
      obtain ⟨_, _, rfl⟩ := get?_action_eq_some_iff.mp found
      rfl

@[simp] theorem get?_empty
    (kind : Kind)
    (key : String) :
    empty.get? kind key = none := by
  cases kind <;> rfl

theorem get?_put
    (tree : Tree)
    (entity : Entity)
    (kind : Kind)
    (key : String) :
    (tree.put entity).get? kind key =
      if kind = entity.kind ∧ key = entity.id then some entity else tree.get? kind key := by
  cases entity <;> cases kind <;>
    simp only [put, putAt, get?, Entity.kind, Entity.id, Table.get?_insert, reduceCtorEq, true_and, false_and,
      if_false, apply_ite (Option.map _), Option.map_some]

theorem get?_erase
    (tree : Tree)
    (erased kind : Kind)
    (id key : String) :
    (tree.erase erased id).get? kind key = if kind = erased ∧ key = id then none else tree.get? kind key := by
  cases erased <;> cases kind <;>
    simp only [erase, get?, Table.get?_erase, reduceCtorEq, true_and, false_and, if_false,
      apply_ite (Option.map _), Option.map_none]

theorem contains_eq_false_iff :
    tree.contains kind key = false ↔ tree.get? kind key = none := by
  rw [contains, Option.isSome_eq_false_iff, Option.isNone_iff_eq_none]

/-- A tree is determined by what it gives back for every kind and key. -/
theorem ext_get?
    (same : ∀ kind key, left.get? kind key = right.get? kind key) :
    left = right := by
  obtain ⟨leftScenes, leftDialogues, leftActions⟩ := left
  obtain ⟨rightScenes, rightDialogues, rightActions⟩ := right
  have scenes : leftScenes = rightScenes := Table.ext_get? fun key =>
    Option.map_injective (fun _ _ => Entity.scene.inj) (same .scene key)
  have dialogues : leftDialogues = rightDialogues := Table.ext_get? fun key =>
    Option.map_injective (fun _ _ => Entity.dialogue.inj) (same .dialogue key)
  have actions : leftActions = rightActions := Table.ext_get? fun key =>
    Option.map_injective (fun _ _ => Entity.action.inj) (same .action key)
  rw [scenes, dialogues, actions]

theorem insert_eq_ok_iff
    {changed : Tree} :
    tree.insert entity = .ok changed ↔ tree.get? entity.kind entity.id = none ∧ changed = tree.put entity := by
  rw [← contains_eq_false_iff, insert]
  cases tree.contains entity.kind entity.id <;> simp [eq_comm]

end Tree

/-! ## Names in order -/

/-- The identifiers that stand in an entity: its own, and those of the entities that it points at. -/
def Entity.names : Entity → List String
  | .scene s => [s.id, s.start]
  | .dialogue d => d.id :: d.actions
  | .action a => a.id :: a.owner :: a.next.dialogue?.toList

/-- All identifiers that stand in an entity are legal. -/
def Entity.Spelled (entity : Entity) : Prop := ∀ name ∈ entity.names, Identifier.isLegal name

namespace Tree

variable {tree : Tree} {entity : Entity}

/-- Every entity stands under its own identifier. -/
structure Keyed (tree : Tree) : Prop where
  /-- Keys are the identifiers of what stands under them. -/
  id_eq : ∀ {kind key entity}, tree.get? kind key = some entity → entity.id = key

/-- Every entity stands under its own identifier, and all identifiers and references are legal. -/
structure Named (tree : Tree) : Prop where
  /-- Keys are the identifiers of what stands under them. -/
  id_eq : ∀ {kind key entity}, tree.get? kind key = some entity → entity.id = key
  /-- Identifiers and references are legal. -/
  spelled : ∀ {kind key entity}, tree.get? kind key = some entity → entity.Spelled

theorem Named.keyed
    (named : tree.Named) :
    tree.Keyed :=
  ⟨named.id_eq⟩

theorem Keyed.dialogue_id
    {key : String}
    {dialogue : Dialogue}
    (keyed : tree.Keyed)
    (found : tree.dialogues.get? key = some dialogue) :
    dialogue.id = key :=
  keyed.id_eq (get?_dialogue_eq_some_iff.mpr ⟨dialogue, found, rfl⟩)

theorem Keyed.action_id
    {key : String}
    {action : Action}
    (keyed : tree.Keyed)
    (found : tree.actions.get? key = some action) :
    action.id = key :=
  keyed.id_eq (get?_action_eq_some_iff.mpr ⟨action, found, rfl⟩)

theorem Keyed.put
    (keyed : tree.Keyed)
    (entity : Entity) :
    (tree.put entity).Keyed := by
  constructor
  intro kind key found foundThere
  rw [get?_put] at foundThere
  split_ifs at foundThere with same
  · cases foundThere
    exact same.2.symm
  · exact keyed.id_eq foundThere

theorem Keyed.erase
    (keyed : tree.Keyed)
    (kind : Kind)
    (id : String) :
    (tree.erase kind id).Keyed := by
  constructor
  intro other key found foundThere
  rw [get?_erase] at foundThere
  split_ifs at foundThere
  exact keyed.id_eq foundThere

theorem named_empty : empty.Named := by
  constructor <;> simp

theorem Named.put
    (named : tree.Named)
    (spelled : entity.Spelled) :
    (tree.put entity).Named := by
  refine ⟨(named.keyed.put entity).id_eq, ?_⟩
  intro kind key found foundThere
  rw [get?_put] at foundThere
  split_ifs at foundThere
  · cases foundThere
    exact spelled
  · exact named.spelled foundThere

theorem Named.erase
    (named : tree.Named)
    (kind : Kind)
    (id : String) :
    (tree.erase kind id).Named := by
  have kept {other key entity} (found : (tree.erase kind id).get? other key = some entity) :
      tree.get? other key = some entity := by
    rw [get?_erase] at found
    split_ifs at found
    exact found
  exact ⟨fun found => named.id_eq (kept found), fun found => named.spelled (kept found)⟩

/-! ## A tree is made of its entities -/

/-- All entities of a tree: scenes, dialogues and actions, each in the order of their keys. -/
def entities (tree : Tree) : List Entity :=
  tree.scenes.values.map .scene ++ tree.dialogues.values.map .dialogue ++ tree.actions.values.map .action

/-- No two entities of one kind have one identifier. -/
def Distinct (entities : List Entity) : Prop :=
  entities.Pairwise fun earlier later => earlier.kind = later.kind → earlier.id ≠ later.id

theorem mem_entities_iff :
    entity ∈ tree.entities ↔ ∃ key, tree.get? entity.kind key = some entity := by
  cases entity <;> simp [entities, get?, Entity.kind, Table.mem_values_iff]

theorem Named.mem_entities_iff
    (named : tree.Named) :
    entity ∈ tree.entities ↔ tree.get? entity.kind entity.id = some entity := by
  rw [Tree.mem_entities_iff]
  constructor
  · rintro ⟨key, found⟩
    rwa [named.id_eq found]
  · exact fun found => ⟨_, found⟩

theorem Named.spelled_of_mem
    (named : tree.Named)
    (member : entity ∈ tree.entities) :
    entity.Spelled :=
  named.spelled (named.mem_entities_iff.mp member)

/-- The values of a table whose keys are their identifiers have distinct identifiers. -/
theorem pairwise_values
    {α : Type}
    (table : Table α)
    (idOf : α → String)
    (keyed : ∀ {key value}, table.get? key = some value → idOf value = key) :
    table.values.Pairwise fun earlier later => idOf earlier < idOf later := by
  rw [Table.values, List.pairwise_map]
  refine table.increasing.imp_of_mem fun {earlier later} earlierThere laterThere before => ?_
  rwa [keyed (Table.get?_eq_some_iff.mpr earlierThere), keyed (Table.get?_eq_some_iff.mpr laterThere)]

theorem Named.distinct_entities
    (named : tree.Named) :
    Distinct tree.entities := by
  have scenes := pairwise_values tree.scenes Scene.id fun found =>
    named.id_eq (get?_scene_eq_some_iff.mpr ⟨_, found, rfl⟩)
  have dialogues := pairwise_values tree.dialogues Dialogue.id fun found =>
    named.id_eq (get?_dialogue_eq_some_iff.mpr ⟨_, found, rfl⟩)
  have actions := pairwise_values tree.actions Action.id fun found =>
    named.id_eq (get?_action_eq_some_iff.mpr ⟨_, found, rfl⟩)
  simp only [Distinct, entities, List.pairwise_append, List.pairwise_map, List.mem_append, List.mem_map]
  refine ⟨⟨?_, ?_, ?_⟩, ?_, ?_⟩
  · refine scenes.imp ?_
    exact fun before _ => Std.ne_of_lt before
  · refine dialogues.imp ?_
    exact fun before _ => Std.ne_of_lt before
  · rintro _ ⟨_, _, rfl⟩ _ ⟨_, _, rfl⟩
    exact nofun
  · refine actions.imp ?_
    exact fun before _ => Std.ne_of_lt before
  · rintro _ (⟨_, _, rfl⟩ | ⟨_, _, rfl⟩) _ ⟨_, _, rfl⟩
    · exact nofun
    · exact nofun

/-- Putting distinct entities into a tree adds just them. -/
theorem get?_foldl_put_eq_some_iff
    {entities : List Entity}
    {kind : Kind}
    {key : String}
    (distinct : Distinct entities)
    (fresh : ∀ added ∈ entities, tree.get? added.kind added.id = none) :
    (entities.foldl Tree.put tree).get? kind key = some entity ↔
      (entity ∈ entities ∧ entity.kind = kind ∧ entity.id = key) ∨ tree.get? kind key = some entity := by
  induction entities generalizing tree with
  | nil => simp
  | cons first rest inductionHypothesis =>
      obtain ⟨apart, restDistinct⟩ := List.pairwise_cons.mp distinct
      have restFresh : ∀ added ∈ rest, (tree.put first).get? added.kind added.id = none := by
        intro added member
        rw [get?_put, if_neg fun same => apart added member same.1.symm same.2.symm]
        exact fresh added (List.mem_cons_of_mem _ member)
      rw [List.foldl_cons, inductionHypothesis restDistinct restFresh, get?_put]
      split_ifs with here
      · have unheld := fresh first List.mem_cons_self
        rw [← here.1, ← here.2] at unheld
        have elsewhere : ¬(entity ∈ rest ∧ entity.kind = kind ∧ entity.id = key) := fun ⟨member, ofKind, ofKey⟩ =>
          apart entity member (here.1.symm.trans ofKind.symm) (here.2.symm.trans ofKey.symm)
        simp only [elsewhere, unheld, false_or, or_false, reduceCtorEq, Option.some.injEq, List.mem_cons]
        constructor
        · rintro rfl
          exact ⟨.inl rfl, here.1.symm, here.2.symm⟩
        · rintro ⟨same | member, ofKind, ofKey⟩
          · exact same.symm
          · exact absurd ⟨member, ofKind, ofKey⟩ elsewhere
      · simp only [List.mem_cons]
        constructor
        · rintro (⟨member, place⟩ | found)
          · exact .inl ⟨.inr member, place⟩
          · exact .inr found
        · rintro (⟨rfl | member, place⟩ | found)
          · exact absurd ⟨place.1.symm, place.2.symm⟩ here
          · exact .inl ⟨member, place⟩
          · exact .inr found

/-- Putting the entities of a tree into the empty tree gives the tree again. -/
theorem Named.foldl_put_entities
    (named : tree.Named) :
    tree.entities.foldl Tree.put empty = tree := by
  apply ext_get?
  intro kind key
  ext entity
  rw [get?_foldl_put_eq_some_iff named.distinct_entities fun _ _ => get?_empty _ _, named.mem_entities_iff,
    get?_empty]
  constructor
  · rintro (⟨found, rfl, rfl⟩ | none)
    · exact found
    · cases none
  · intro found
    have ofKind := kind_of_get? found
    have ofKey := named.id_eq found
    exact .inl ⟨by rwa [ofKind, ofKey], ofKind, ofKey⟩

end Tree
end Parley
