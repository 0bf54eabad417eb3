import Mathlib
import Parley.Proofs.Document.Entries

/-!
# What a document has to meet

A document is read as a tree if it meets a long row of demands: that its groups are there, then that every entry has its
fields, and then that the identifiers of every entry are legal and its own one is new.  Whoever reads a document answers
for its row: they give the value that it is meant to have, or the defect of the first demand that is not met.
-/

namespace Parley

variable {α β : Type}

namespace Document

/-! ## Demands in a row -/

/-- Something that is asked of a document, and the defect of a document that does not meet it. -/
structure Demand where
  met : Prop
  defect : Defect

/-- All demands of a row are met. -/
def AllMet (demands : List Demand) : Prop := ∀ demand ∈ demands, demand.met

/-- The first demand of a row that is not met has a defect. -/
inductive FirstUnmet : List Demand → Defect → Prop
  | here {demand : Demand} {rest : List Demand} (unmet : ¬demand.met) : FirstUnmet (demand :: rest) demand.defect
  | later {demand : Demand} {rest : List Demand} {defect : Defect}
      (met : demand.met) (further : FirstUnmet rest defect) : FirstUnmet (demand :: rest) defect

variable {demand : Demand} {front behind : List Demand} {defect : Defect}

theorem allMet_cons_iff :
    AllMet (demand :: behind) ↔ demand.met ∧ AllMet behind :=
  List.forall_mem_cons

theorem allMet_append_iff :
    AllMet (front ++ behind) ↔ AllMet front ∧ AllMet behind :=
  List.forall_mem_append

theorem firstUnmet_cons_iff :
    FirstUnmet (demand :: behind) defect ↔
      ¬demand.met ∧ demand.defect = defect ∨ demand.met ∧ FirstUnmet behind defect := by
  constructor
  · intro first
    cases first with
    | here unmet => exact .inl ⟨unmet, rfl⟩
    | later met further => exact .inr ⟨met, further⟩
  · rintro (⟨unmet, rfl⟩ | ⟨met, further⟩)
    · exact .here unmet
    · exact .later met further

theorem firstUnmet_append_iff :
    FirstUnmet (front ++ behind) defect ↔ FirstUnmet front defect ∨ AllMet front ∧ FirstUnmet behind defect := by
  induction front with
  | nil => exact ⟨fun first => .inr ⟨nofun, first⟩, fun first => first.elim nofun And.right⟩
  | cons demand rest inductionHypothesis =>
      rw [List.cons_append, firstUnmet_cons_iff, firstUnmet_cons_iff, allMet_cons_iff, inductionHypothesis]
      tauto

/-- In a row of demands, either all are met or there is a first one that is not. -/
theorem allMet_or_firstUnmet
    (demands : List Demand) :
    AllMet demands ∨ ∃ defect, FirstUnmet demands defect := by
  induction demands with
  | nil => exact .inl nofun
  | cons demand rest inductionHypothesis =>
      by_cases met : demand.met
      · rcases inductionHypothesis with all | ⟨defect, further⟩
        · exact .inl (allMet_cons_iff.mpr ⟨met, all⟩)
        · exact .inr ⟨defect, .later met further⟩
      · exact .inr ⟨demand.defect, .here met⟩

/-! ## Answering for a row -/

/-- A reading gives a value if all demands of a row are met, and otherwise the defect of the first one that is not. -/
structure Answers (demands : List Demand) (reading : Except Defect α) (value : α) : Prop where
  ok : AllMet demands → reading = .ok value
  error : ∀ {defect}, FirstUnmet demands defect → reading = .error defect

namespace Answers

variable {demands : List Demand} {reading : Except Defect α} {value : α} {next : α → Except Defect β} {result : β}

theorem eq_ok_iff
    {given : α}
    (answers : Answers demands reading value) :
    reading = .ok given ↔ AllMet demands ∧ given = value := by
  constructor
  · intro read
    rcases allMet_or_firstUnmet demands with all | ⟨defect, first⟩
    · exact ⟨all, Except.ok.inj (read.symm.trans (answers.ok all))⟩
    · cases read.symm.trans (answers.error first)
  · rintro ⟨all, rfl⟩
    exact answers.ok all

theorem eq_error_iff
    (answers : Answers demands reading value) :
    reading = .error defect ↔ FirstUnmet demands defect := by
  constructor
  · intro read
    rcases allMet_or_firstUnmet demands with all | ⟨other, first⟩
    · cases read.symm.trans (answers.ok all)
    · rwa [Except.error.inj (read.symm.trans (answers.error first))]
  · exact answers.error

theorem pure
    (value : α) :
    Answers [] (Pure.pure value) value :=
  ⟨fun _ => rfl, nofun⟩

/-- What is read after something else answers for the demands behind. -/
theorem bind
    (first : Answers front reading value)
    (second : Answers behind (next value) result) :
    Answers (front ++ behind) (reading >>= next) result where
  ok all := by
    obtain ⟨allFront, allBehind⟩ := allMet_append_iff.mp all
    rw [first.ok allFront]
    exact second.ok allBehind
  error unmet := by
    rcases firstUnmet_append_iff.mp unmet with inFront | ⟨allFront, inBehind⟩
    · rw [first.error inFront]
      rfl
    · rw [first.ok allFront]
      exact second.error inBehind

theorem cons
    (first : Answers [demand] reading value)
    (second : Answers behind (next value) result) :
    Answers (demand :: behind) (reading >>= next) result :=
  bind first second

theorem map
    (answers : Answers demands reading value)
    (change : α → β) :
    Answers demands (reading >>= fun given => Pure.pure (change given)) (change value) where
  ok all := by
    rw [answers.ok all]
    rfl
  error unmet := by
    rw [answers.error unmet]
    rfl

/-- A reading that decides a single demand answers for it. -/
theorem single
    (ok : demand.met → reading = .ok value)
    (error : ¬demand.met → reading = .error demand.defect) :
    Answers [demand] reading value where
  ok all := ok (all demand List.mem_cons_self)
  error unmet := by
    rcases firstUnmet_cons_iff.mp unmet with ⟨broken, rfl⟩ | ⟨_, further⟩
    · exact error broken
    · cases further

/-- Checks of the elements of a list answer for one demand on each of them. -/
theorem forM
    {demandOn : α → Demand}
    {check : α → Except Defect Unit}
    (single : ∀ element, Answers [demandOn element] (check element) ())
    (elements : List α) :
    Answers (elements.map demandOn) (elements.forM check) () := by
  induction elements with
  | nil => exact .pure ()
  | cons element rest inductionHypothesis => exact .cons (single element) inductionHypothesis

end Answers

/-- What is asked of the elements of a list in turn, each with those before it. -/
def inTurn (demands : List α → α → List Demand) : (earlier elements : List α) → List Demand
  | _, [] => []
  | earlier, element :: rest => demands earlier element ++ inTurn demands (earlier ++ [element]) rest

/-- If what is asked of an element does not depend on those before it, it is asked of all elements. -/
theorem allMet_inTurn_iff
    {demands : List α → α → List Demand}
    {good : α → Prop}
    (same : ∀ earlier element, AllMet (demands earlier element) ↔ good element)
    (earlier elements : List α) :
    AllMet (inTurn demands earlier elements) ↔ ∀ element ∈ elements, good element := by
  induction elements generalizing earlier with
  | nil => exact iff_of_true nofun nofun
  | cons element rest inductionHypothesis =>
      rw [inTurn, allMet_append_iff, same, inductionHypothesis, List.forall_mem_cons]

end Document

open Document (Demand AllMet FirstUnmet Answers inTurn)

/-! ## Entries with nothing left open -/

/-- The text of an identifier, if there is one. -/
def WrittenId.textOf (written : Option WrittenId) : String := (written.map WrittenId.id).getD ""

/-- The scene that an entry says; what is not written is empty. -/
def PartialScene.filled (entry : PartialScene) : Scene where
  id := WrittenId.textOf entry.id
  start := WrittenId.textOf entry.start
  context := entry.context.getD Context.empty

/-- The dialogue that an entry says; what is not written is empty. -/
def PartialDialogue.filled (entry : PartialDialogue) : Dialogue where
  id := WrittenId.textOf entry.id
  text := entry.text.getD ""
  actions := (entry.actions.getD []).map WrittenId.id
  context := entry.context.getD Context.empty

/-- The action that an entry says; what is not written is empty, and leads nowhere. -/
def PartialAction.filled (entry : PartialAction) : Action where
  id := WrittenId.textOf entry.id
  owner := WrittenId.textOf entry.owner
  next := (Next.parse? (WrittenId.textOf entry.next)).getD .finish
  text := entry.text
  context := entry.context.getD Context.empty

/-- The document that the entries say. -/
def PartialDocument.filled (document : PartialDocument) : Document where
  scenes := (document.scenes.getD []).map PartialScene.filled
  dialogues := (document.dialogues.getD []).map PartialDialogue.filled
  actions := (document.actions.getD []).map PartialAction.filled

/-! ## Groups and fields -/

/-- What is asked of the fields of a scene in its place. -/
def PartialScene.demands (index : Nat) (entry : PartialScene) : List Demand :=
  [⟨entry.id.isSome, .missingField .scene (.place index) .sceneId⟩,
    ⟨entry.start.isSome, .missingField .scene (.id entry.filled.id) .dialogueId⟩]

/-- What is asked of the fields of a dialogue in its place. -/
def PartialDialogue.demands (index : Nat) (entry : PartialDialogue) : List Demand :=
  [⟨entry.id.isSome, .missingField .dialogue (.place index) .dialogueId⟩,
    ⟨entry.text.isSome, .missingField .dialogue (.id entry.filled.id) .text⟩,
    ⟨entry.actions.isSome, .missingField .dialogue (.id entry.filled.id) .actions⟩]

/-- What is asked of a text that says what follows an action. -/
def Next.demand (action text : String) : Demand where
  met := text = Identifier.terminal ∨ Identifier.isLegal text
  defect := .invalidField .action (.id action) .nextId text (if text = "" then .emptyNext else .illegalNext)

/-- What is asked of the fields of an action in its place. -/
def PartialAction.demands (index : Nat) (entry : PartialAction) : List Demand :=
  [⟨entry.id.isSome, .missingField .action (.place index) .actionId⟩,
    ⟨entry.owner.isSome, .missingField .action (.id entry.filled.id) .dialogueId⟩,
    ⟨entry.next.isSome, .missingField .action (.id entry.filled.id) .nextId⟩,
    Next.demand entry.filled.id (WrittenId.textOf entry.next)]

namespace PartialDocument

open Document (Defect EntryName Field)

/-- What is asked of the groups. -/
def groupDemands (document : PartialDocument) : List Demand :=
  [⟨document.scenes.isSome, .missingGroup .scene⟩, ⟨document.dialogues.isSome, .missingGroup .dialogue⟩,
    ⟨document.actions.isSome, .missingGroup .action⟩]

/-- What is asked of the fields of all entries, which are counted in their groups. -/
def fieldDemands (document : PartialDocument) : List Demand :=
  inTurn (fun earlier entry => entry.demands earlier.length) [] (document.scenes.getD []) ++
    (inTurn (fun earlier entry => entry.demands earlier.length) [] (document.dialogues.getD []) ++
      inTurn (fun earlier entry => entry.demands earlier.length) [] (document.actions.getD []))

theorem answers_requiredGroup
    (group : Kind)
    (written : Option (List α)) :
    Answers [⟨written.isSome, .missingGroup group⟩] (requiredGroup group written) (written.getD []) := by
  cases written with
  | none => exact .single nofun fun _ => rfl
  | some entries => exact .single (fun _ => rfl) fun missing => absurd rfl missing

section Fields

variable {group : Kind} {entry : EntryName} {field : Field}

theorem answers_required
    (written : Option α)
    (fallback : α) :
    Answers [⟨written.isSome, .missingField group entry field⟩] (required group entry field written)
      (written.getD fallback) := by
  cases written with
  | none => exact .single nofun fun _ => rfl
  | some value => exact .single (fun _ => rfl) fun missing => absurd rfl missing

theorem answers_requiredId
    (written : Option WrittenId) :
    Answers [⟨written.isSome, .missingField group entry field⟩] (requiredId group entry field written)
      (WrittenId.textOf written) := by
  cases written with
  | none => exact .single nofun fun _ => rfl
  | some value => exact .single (fun _ => rfl) fun missing => absurd rfl missing

end Fields

theorem answers_requireNext
    (action text : String) :
    Answers [Next.demand action text] (requireNext action text) ((Next.parse? text).getD .finish) := by
  have parsed_iff : (Next.parse? text).isSome ↔ text = Identifier.terminal ∨ Identifier.isLegal text := by
    unfold Next.parse?
    split_ifs with terminal legal
    · exact iff_of_true rfl (.inl (eq_of_beq terminal))
    · exact iff_of_true rfl (.inr legal)
    · exact iff_of_false nofun (not_or.mpr ⟨fun same => terminal (beq_iff_eq.mpr same), legal⟩)
  unfold requireNext
  rcases parsed : Next.parse? text with _ | next
  · rw [parsed] at parsed_iff
    refine .single (fun met => absurd (parsed_iff.mpr met) nofun) fun _ => ?_
    simp [Next.demand]
  · rw [parsed] at parsed_iff
    exact .single (fun _ => rfl) fun unmet => absurd (parsed_iff.mp rfl) unmet

theorem answers_completeScene
    (index : Nat)
    (entry : PartialScene) :
    Answers (entry.demands index) (completeScene index entry) entry.filled :=
  .cons (answers_requiredId entry.id) (.cons (answers_requiredId entry.start) (.pure _))

theorem answers_completeDialogue
    (index : Nat)
    (entry : PartialDialogue) :
    Answers (entry.demands index) (completeDialogue index entry) entry.filled :=
  .cons (answers_requiredId entry.id)
    (.cons (answers_required entry.text "") (.cons (answers_required entry.actions []) (.pure _)))

theorem answers_completeAction
    (index : Nat)
    (entry : PartialAction) :
    Answers (entry.demands index) (completeAction index entry) entry.filled :=
  .cons (answers_requiredId entry.id)
    (.cons (answers_requiredId entry.owner)
      (.cons (answers_requiredId entry.next) (.cons (answers_requireNext _ _) (.pure _))))

/-- The entries of a group answer in turn, each with its place as number. -/
theorem answers_completeFrom
    {complete : Nat → α → Except Defect β}
    {demands : Nat → α → List Demand}
    {filled : α → β}
    (answers : ∀ index entry, Answers (demands index entry) (complete index entry) (filled entry))
    (earlier entries : List α) :
    Answers (inTurn (fun earlier entry => demands earlier.length entry) earlier entries)
      (completeFrom complete earlier.length entries) (entries.map filled) := by
  induction entries generalizing earlier with
  | nil => exact .pure []
  | cons entry rest inductionHypothesis =>
      have further := inductionHypothesis (earlier ++ [entry])
      rw [List.length_append, List.length_singleton] at further
      rw [completeFrom, inTurn]
      exact .bind (answers earlier.length entry) (further.map fun values => filled entry :: values)

/-- Completing a document answers for its groups and fields. -/
theorem answers_complete
    (document : PartialDocument) :
    Answers (document.groupDemands ++ document.fieldDemands) document.complete document.filled :=
  have fields : Answers document.fieldDemands _ document.filled :=
    .bind (answers_completeFrom answers_completeScene [] _)
      (.bind (answers_completeFrom answers_completeDialogue [] _)
        (.map (answers_completeFrom answers_completeAction [] _) _))
  .cons (answers_requiredGroup .scene document.scenes)
    (.cons (answers_requiredGroup .dialogue document.dialogues)
      (.cons (answers_requiredGroup .action document.actions) fields))

end PartialDocument

/-! ## Identifiers -/

namespace Document

/-- The identifiers of an entry that are looked at when it goes into a tree, each with its field. -/
def namedFields : Entity → List (Field × String)
  | .scene scene => [(.sceneId, scene.id), (.dialogueId, scene.start)]
  | .dialogue dialogue => (.dialogueId, dialogue.id) :: dialogue.actions.map fun action => (.actions, action)
  | .action action => [(.actionId, action.id), (.dialogueId, action.owner)]

/-- What is asked of an identifier in a field of an entry. -/
def legalDemand (entity : Entity) (named : Field × String) : Demand where
  met := Identifier.isLegal named.2
  defect := .invalidField entity.kind (.id entity.id) named.1 named.2 .illegalIdentifier

/-- What is asked of the own identifier of an entry that stands behind others. -/
def newDemand (earlier : List Entity) (entity : Entity) : Demand where
  met := ∀ other ∈ earlier, other.kind = entity.kind → other.id ≠ entity.id
  defect := .duplicateEntry entity.kind entity.id

/-- What is asked of the identifiers of an entry that stands behind others. -/
def nameDemands (earlier : List Entity) (entity : Entity) : List Demand :=
  (namedFields entity).map (legalDemand entity) ++ [newDemand earlier entity]

theorem addEntity_eq_forM
    (tree : Tree)
    (entity : Entity) :
    addEntity tree entity =
      (namedFields entity).forM (fun named => requireLegal entity.kind entity.id named.1 named.2) >>= fun _ =>
        addDistinct tree entity := by
  cases entity with
  | scene scene => simp [addEntity, addScene, namedFields, Entity.kind, Entity.id]
  | dialogue dialogue => simp [addEntity, addDialogue, namedFields, Entity.kind, Entity.id]
  | action action => simp [addEntity, addAction, namedFields, Entity.kind, Entity.id]

theorem answers_requireLegal
    (entity : Entity)
    (named : Field × String) :
    Answers [legalDemand entity named] (requireLegal entity.kind entity.id named.1 named.2) () :=
  .single (fun legal => if_pos legal) fun illegal => if_neg illegal

/-- A tree holds what went into it: a place of it is free just if no entity before took it. -/
def HoldsJust (tree : Tree) (entities : List Entity) : Prop :=
  ∀ kind key, tree.get? kind key = none ↔ ∀ entity ∈ entities, entity.kind = kind → entity.id ≠ key

variable {tree : Tree} {earlier : List Entity}

theorem HoldsJust.put
    (holds : HoldsJust tree earlier)
    (entity : Entity) :
    HoldsJust (tree.put entity) (earlier ++ [entity]) := by
  intro kind key
  rw [Tree.get?_put, List.forall_mem_append, List.forall_mem_singleton, ← holds kind key]
  split_ifs with same
  · exact iff_of_false not_false fun free => free.2 same.1.symm same.2.symm
  · exact (and_iff_left fun ofKind ofKey => same ⟨ofKind.symm, ofKey.symm⟩).symm

theorem answers_addDistinct
    (holds : HoldsJust tree earlier)
    (entity : Entity) :
    Answers [newDemand earlier entity] (addDistinct tree entity) (tree.put entity) := by
  have free_iff : tree.contains entity.kind entity.id = false ↔ (newDemand earlier entity).met :=
    Tree.contains_eq_false_iff.trans (holds entity.kind entity.id)
  unfold addDistinct Tree.insert
  refine .single (fun free => ?_) fun taken => ?_
  · rw [free_iff.mpr free]
    rfl
  · rw [Bool.eq_true_of_not_eq_false (mt free_iff.mp taken)]
    rfl

theorem answers_addEntity
    (holds : HoldsJust tree earlier)
    (entity : Entity) :
    Answers (nameDemands earlier entity) (addEntity tree entity) (tree.put entity) := by
  rw [addEntity_eq_forM]
  exact .bind (.forM (answers_requireLegal entity) _) (answers_addDistinct holds entity)

/-- Entries that go into a tree answer in turn. -/
theorem answers_foldlM_addEntity
    (holds : HoldsJust tree earlier)
    (entities : List Entity) :
    Answers (inTurn nameDemands earlier entities) (entities.foldlM addEntity tree) (entities.foldl Tree.put tree) := by
  induction entities generalizing tree earlier with
  | nil => exact .pure tree
  | cons entity rest inductionHypothesis =>
      rw [inTurn, List.foldlM_cons, List.foldl_cons]
      exact .bind (answers_addEntity holds entity) (inductionHypothesis (holds.put entity))

/-- Making the tree of a document answers for its identifiers. -/
theorem answers_toTree
    (document : Document) :
    Answers (inTurn nameDemands [] document.entities) document.toTree (document.entities.foldl Tree.put Tree.empty) := by
  rw [toTree_eq_foldlM]
  exact answers_foldlM_addEntity (fun kind key => iff_of_true (Tree.get?_empty kind key) (List.forall_mem_nil _))
    document.entities

/-- The tree of a document holds the entries of the document, each once. -/
theorem entities_perm_of_toTree
    {document : Document}
    (given : document.toTree = .ok tree) :
    tree.entities.Perm document.entities := by
  rw [← entities_ofTree, ofTree_of_toTree given]
  exact (((List.mergeSort_perm ..).map _).append ((List.mergeSort_perm ..).map _)).append
    ((List.mergeSort_perm ..).map _)

end Document

/-! ## Reading a document -/

namespace PartialDocument

open Document (Defect)

/-- A document has everything that makes it a tree: nothing is missing, and all identifiers are legal and distinct. -/
structure Readable (document : PartialDocument) : Prop where
  groups : document.scenes.isSome ∧ document.dialogues.isSome ∧ document.actions.isSome
  scene_fields : ∀ entry ∈ document.scenes.getD [], entry.id.isSome ∧ entry.start.isSome
  dialogue_fields : ∀ entry ∈ document.dialogues.getD [], entry.id.isSome ∧ entry.text.isSome ∧ entry.actions.isSome
  action_fields : ∀ entry ∈ document.actions.getD [], entry.id.isSome ∧ entry.owner.isSome ∧ entry.next.isSome
  next_legal : ∀ entry ∈ document.actions.getD [], ∀ next ∈ entry.next,
    next.id = Identifier.terminal ∨ Identifier.isLegal next.id
  names_legal : ∀ entity ∈ document.filled.entities, ∀ name ∈ Document.checkedNames entity, Identifier.isLegal name
  distinct : Tree.Distinct document.filled.entities

/-- All that is asked of a document, in the order in which it is looked at. -/
def demands (document : PartialDocument) : List Demand :=
  document.groupDemands ++ document.fieldDemands ++ inTurn Document.nameDemands [] document.filled.entities

variable {document : PartialDocument}

theorem allMet_groupDemands_iff :
    AllMet document.groupDemands ↔
      document.scenes.isSome ∧ document.dialogues.isSome ∧ document.actions.isSome := by
  simp [AllMet, groupDemands]

theorem allMet_fieldDemands_iff :
    AllMet document.fieldDemands ↔
      (∀ entry ∈ document.scenes.getD [], entry.id.isSome ∧ entry.start.isSome) ∧
        (∀ entry ∈ document.dialogues.getD [], entry.id.isSome ∧ entry.text.isSome ∧ entry.actions.isSome) ∧
          ∀ entry ∈ document.actions.getD [],
            (entry.id.isSome ∧ entry.owner.isSome ∧ entry.next.isSome) ∧
              ∀ next ∈ entry.next, next.id = Identifier.terminal ∨ Identifier.isLegal next.id := by
  unfold fieldDemands
  rw [Document.allMet_append_iff, Document.allMet_append_iff]
  refine and_congr (Document.allMet_inTurn_iff ?_ _ _)
    (and_congr (Document.allMet_inTurn_iff ?_ _ _) (Document.allMet_inTurn_iff ?_ _ _))
  · intro earlier entry
    simp [AllMet, PartialScene.demands]
  · intro earlier entry
    simp [AllMet, PartialDialogue.demands]
  · intro earlier entry
    rcases written : entry.next with _ | next
    · simp [AllMet, PartialAction.demands, written]
    · simp [AllMet, PartialAction.demands, written, Next.demand, WrittenId.textOf, and_assoc]

theorem answers_demands
    (document : PartialDocument) :
    Answers document.demands (document.complete >>= Document.toTree)
      (document.filled.entities.foldl Tree.put Tree.empty) :=
  .bind (answers_complete document) (Document.answers_toTree document.filled)

theorem readable_iff :
    document.Readable ↔
      AllMet (document.groupDemands ++ document.fieldDemands) ∧ ∃ tree, document.filled.toTree = .ok tree := by
  rw [Document.allMet_append_iff, allMet_groupDemands_iff, allMet_fieldDemands_iff]
  constructor
  · rintro ⟨groups, scenes, dialogues, actions, nexts, legal, distinct⟩
    refine ⟨⟨groups, scenes, dialogues, fun entry member => ⟨actions entry member, nexts entry member⟩⟩, ?_⟩
    simp only [Document.toTree_eq_foldlM, Document.foldlM_addEntity_eq_ok_iff]
    exact ⟨_, legal, distinct, fun _ _ => Tree.get?_empty _ _, rfl⟩
  · rintro ⟨⟨groups, scenes, dialogues, actions⟩, tree, given⟩
    obtain ⟨legal, distinct⟩ := Document.legal_and_distinct_of_toTree given
    exact ⟨groups, scenes, dialogues, fun entry member => (actions entry member).1,
      fun entry member => (actions entry member).2, legal, distinct⟩

/-- Reading goes on to the identifiers just if no group and no field is missing. -/
theorem read_eq_ok_iff
    {tree : Tree} :
    (document.complete >>= Document.toTree) = .ok tree ↔
      AllMet (document.groupDemands ++ document.fieldDemands) ∧ document.filled.toTree = .ok tree := by
  simp only [bind_eq_ok_iff, (answers_complete document).eq_ok_iff, and_assoc, exists_and_left, exists_eq_left]

/-- A document is read as a tree just if it has everything, whether or not its references lead anywhere.  The tree holds one
entity for each entry, under its own identifier and with its fields as they are written.  Otherwise the defect is that of
the first demand that is not met. -/
theorem read_iff
    (document : PartialDocument) :
    ((∃ tree, (document.complete >>= Document.toTree) = .ok tree) ↔ document.Readable) ∧
      (∀ tree, (document.complete >>= Document.toTree) = .ok tree →
        tree.entities.Perm document.filled.entities ∧
          ∀ kind key entity, tree.get? kind key = some entity ↔
            entity ∈ document.filled.entities ∧ entity.kind = kind ∧ entity.id = key) ∧
        ∀ defect, (document.complete >>= Document.toTree) = .error defect ↔ FirstUnmet document.demands defect := by
  refine ⟨?_, fun tree read => ?_, fun defect => (answers_demands document).eq_error_iff⟩
  · simp only [read_eq_ok_iff, readable_iff, exists_and_left]
  · obtain ⟨_, given⟩ := read_eq_ok_iff.mp read
    exact ⟨Document.entities_perm_of_toTree given, fun _ _ _ => Document.get?_toTree_eq_some_iff given⟩

/-- A talk with one scene, dialogue and action, two of which have numbers for identifiers. -/
def numberedTalk : PartialDocument where
  scenes := some [{ id := some (.number 7), start := some (.text "hall") }]
  dialogues := some [{ id := some (.text "hall"), text := some "Who is there?", actions := some [.number 1] }]
  actions := some [{ id := some (.number 1), owner := some (.text "hall"), next := some (.text "end") }]

/-- The talk with a scene more, whose identifier is a text that says the number of the first one. -/
def collidingTalk : PartialDocument :=
  { numberedTalk with scenes := numberedTalk.scenes.map (· ++ [{ id := some (.text "7"), start := some (.text "void") }]) }

/-- The numbered talk is readable.  The first that is wrong with the colliding talk is the scene that stands in it twice, not
the dialogue that it lacks. -/
theorem read_numberedTalk :
    numberedTalk.Readable ∧ FirstUnmet collidingTalk.demands (.duplicateEntry .scene "7") := by
  constructor
  · exact (read_iff numberedTalk).1.mp ⟨_, rfl⟩
  · exact ((read_iff collidingTalk).2.2 _).mp rfl

end PartialDocument
end Parley
