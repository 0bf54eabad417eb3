import Mathlib
import Parley.Document.Basic
import Parley.Proofs.Conversation.Course
import Parley.Proofs.Integrity.Naming
import Parley.Proofs.Stages

/-!
# Documents and the trees that they hold

A tree whose entities stand under their own legal identifiers is given back by its document.  Conversely, the tree of a
document has the entries of the document, and all that it does not keep is the order in which they were written.
-/

namespace Parley
namespace Document

open Integrity (ValidTree)

variable {document : Document} {tree changed : Tree} {entity : Entity}

/-! ## Entries of any kind -/

/-- All entries of a document, in the order in which they go into a tree. -/
def entities (document : Document) : List Entity :=
  document.scenes.map .scene ++ document.dialogues.map .dialogue ++ document.actions.map .action

theorem entities_ofTree
    (tree : Tree) :
    (ofTree tree).entities = tree.entities := rfl

theorem forall_mem_entities_iff
    {p : Entity → Prop} :
    (∀ entity ∈ document.entities, p entity) ↔
      (∀ scene ∈ document.scenes, p (.scene scene)) ∧ (∀ dialogue ∈ document.dialogues, p (.dialogue dialogue)) ∧
        ∀ action ∈ document.actions, p (.action action) := by
  simp only [entities, List.forall_mem_append, List.forall_mem_map, and_assoc]

/-- Add an entry of any kind to a tree. -/
def addEntity (tree : Tree) : Entity → Except Defect Tree
  | .scene scene => addScene tree scene
  | .dialogue dialogue => addDialogue tree dialogue
  | .action action => addAction tree action

theorem toTree_eq_foldlM
    (document : Document) :
    document.toTree = document.entities.foldlM addEntity Tree.empty := by
  simp only [entities, List.foldlM_append, List.foldlM_map, bind_assoc]
  rfl

/-- The identifiers of an entry that have to be legal; what follows an action was looked at before. -/
def checkedNames : Entity → List String
  | .scene scene => [scene.id, scene.start]
  | .dialogue dialogue => dialogue.id :: dialogue.actions
  | .action action => [action.id, action.owner]

theorem requireLegal_eq_ok_iff
    {group : Kind}
    {entry value : String}
    {field : Field} :
    requireLegal group entry field value = .ok () ↔ Identifier.isLegal value := by
  cases legal : Identifier.isLegal value <;> simp [requireLegal, legal]

theorem addDistinct_eq_ok_iff :
    addDistinct tree entity = .ok changed ↔
      tree.get? entity.kind entity.id = none ∧ changed = tree.put entity := by
  rw [addDistinct, mapError_eq_ok_iff, Tree.insert_eq_ok_iff]

/-- An entry is added exactly when its identifiers are legal and its own one is free. -/
theorem addEntity_eq_ok_iff :
    addEntity tree entity = .ok changed ↔
      (∀ name ∈ checkedNames entity, Identifier.isLegal name) ∧
        tree.get? entity.kind entity.id = none ∧ changed = tree.put entity := by
  rw [← addDistinct_eq_ok_iff]
  cases entity with
  | scene scene =>
      rw [addEntity, addScene, check_bind_eq_ok_iff, check_bind_eq_ok_iff, requireLegal_eq_ok_iff,
        requireLegal_eq_ok_iff]
      simp [checkedNames, and_assoc]
  | dialogue dialogue =>
      rw [addEntity, addDialogue, check_bind_eq_ok_iff, check_bind_eq_ok_iff, requireLegal_eq_ok_iff, forM_eq_ok_iff]
      simp only [requireLegal_eq_ok_iff, checkedNames, List.forall_mem_cons, and_assoc]
  | action action =>
      rw [addEntity, addAction, check_bind_eq_ok_iff, check_bind_eq_ok_iff, requireLegal_eq_ok_iff,
        requireLegal_eq_ok_iff]
      simp [checkedNames, and_assoc]

/-- Entries go into a tree exactly when all their identifiers are legal, no two of one kind have one identifier, and none
of them is taken. -/
theorem foldlM_addEntity_eq_ok_iff
    {entities : List Entity} :
    entities.foldlM addEntity tree = .ok changed ↔
      (∀ entity ∈ entities, ∀ name ∈ checkedNames entity, Identifier.isLegal name) ∧
        Tree.Distinct entities ∧
        (∀ entity ∈ entities, tree.get? entity.kind entity.id = none) ∧
        changed = entities.foldl Tree.put tree := by
  induction entities generalizing tree with
  | nil =>
      rw [List.foldlM_nil, List.foldl_nil, show pure tree = Except.ok tree from rfl, Except.ok.injEq]
      simp [Tree.Distinct, eq_comm (a := tree)]
  | cons first rest inductionHypothesis =>
      simp only [List.foldlM_cons, bind_eq_ok_iff, addEntity_eq_ok_iff, inductionHypothesis, List.forall_mem_cons,
        Tree.Distinct, List.pairwise_cons, List.foldl_cons]
      constructor
      · rintro ⟨_, ⟨legal, free, rfl⟩, restLegal, distinct, restFree, same⟩
        refine ⟨⟨legal, restLegal⟩, ⟨fun later member ofKind ofId => ?_, distinct⟩, ⟨free, fun later member => ?_⟩, same⟩
        · simpa [ofKind, ofId, Tree.get?_put] using restFree later member
        · have unheld := restFree later member
          rw [Tree.get?_put] at unheld
          split_ifs at unheld
          exact unheld
      · rintro ⟨⟨legal, restLegal⟩, ⟨apart, distinct⟩, ⟨free, restFree⟩, same⟩
        refine ⟨_, ⟨legal, free, rfl⟩, restLegal, distinct, fun later member => ?_, same⟩
        rw [Tree.get?_put, if_neg fun same => apart later member same.1.symm same.2.symm]
        exact restFree later member

/-! ## From a tree to its document and back -/

theorem legal_checkedNames
    (spelled : entity.Spelled) :
    ∀ name ∈ checkedNames entity, Identifier.isLegal name := by
  cases entity with
  | scene scene => exact spelled
  | dialogue dialogue => exact spelled
  | action action =>
      intro name member
      exact spelled name (List.mem_append_left action.next.dialogue?.toList member)

/-- The document of a tree whose names are in order gives the tree back. -/
theorem toTree_ofTree
    (named : tree.Named) :
    (ofTree tree).toTree = .ok tree := by
  rw [toTree_eq_foldlM, entities_ofTree, foldlM_addEntity_eq_ok_iff]
  refine ⟨fun entity member => ?_, named.distinct_entities, fun _ _ => Tree.get?_empty _ _, ?_⟩
  · exact legal_checkedNames (named.spelled_of_mem member)
  · exact named.foldl_put_entities.symm

/-! ## From a document to its tree and back -/

/-- A document that gives a tree has legal identifiers, no two of which are the same in one group. -/
theorem legal_and_distinct_of_toTree
    (given : document.toTree = .ok tree) :
    (∀ entity ∈ document.entities, ∀ name ∈ checkedNames entity, Identifier.isLegal name) ∧
      Tree.Distinct document.entities := by
  rw [toTree_eq_foldlM, foldlM_addEntity_eq_ok_iff] at given
  exact ⟨given.1, given.2.1⟩

/-- The tree of a document holds every entry under its own identifier, and nothing else. -/
theorem get?_toTree_eq_some_iff
    {kind : Kind}
    {key : String}
    (given : document.toTree = .ok tree) :
    tree.get? kind key = some entity ↔ entity ∈ document.entities ∧ entity.kind = kind ∧ entity.id = key := by
  rw [toTree_eq_foldlM, foldlM_addEntity_eq_ok_iff] at given
  obtain ⟨_, distinct, free, rfl⟩ := given
  rw [Tree.get?_foldl_put_eq_some_iff distinct free, Tree.get?_empty]
  simp

theorem mem_entities_toTree_iff
    (given : document.toTree = .ok tree)
    (entity : Entity) :
    entity ∈ tree.entities ↔ entity ∈ document.entities := by
  simp [Tree.mem_entities_iff, get?_toTree_eq_some_iff given]

/-- The document with the entries of every group in the order of their identifiers.  Identifiers are compared by code
points, which is the order of their bytes. -/
def sorted (document : Document) : Document where
  scenes := document.scenes.mergeSort fun earlier later => earlier.id ≤ later.id
  dialogues := document.dialogues.mergeSort fun earlier later => earlier.id ≤ later.id
  actions := document.actions.mergeSort fun earlier later => earlier.id ≤ later.id

/-- A table that holds distinct values under their identifiers lists them sorted by identifier. -/
theorem values_eq_mergeSort
    {α : Type}
    {table : Table α}
    {idOf : α → String}
    {written : List α}
    (keyed : ∀ {key value}, table.get? key = some value → idOf value = key)
    (distinct : written.Pairwise fun earlier later => idOf earlier ≠ idOf later)
    (same : ∀ value, value ∈ table.values ↔ value ∈ written) :
    table.values = written.mergeSort fun earlier later => idOf earlier ≤ idOf later := by
  have increasing := Tree.pairwise_values table idOf keyed
  have nodup : table.values.Nodup := increasing.imp fun before equal => absurd (congrArg idOf equal) (ne_of_lt before)
  have writtenNodup : written.Nodup := distinct.imp fun different equal => different (congrArg idOf equal)
  have perm : table.values.Perm (written.mergeSort fun earlier later => idOf earlier ≤ idOf later) :=
    ((List.perm_ext_iff_of_nodup nodup writtenNodup).mpr same).trans (List.mergeSort_perm _ _).symm
  have sorted : (written.mergeSort fun earlier later => idOf earlier ≤ idOf later).Pairwise
      fun earlier later => idOf earlier ≤ idOf later := by
    have transitive (first second third : α) :
        decide (idOf first ≤ idOf second) → decide (idOf second ≤ idOf third) →
          decide (idOf first ≤ idOf third) := by
      simpa using le_trans
    have total (first second : α) : decide (idOf first ≤ idOf second) || decide (idOf second ≤ idOf first) := by
      simpa using le_total _ _
    simpa using List.pairwise_mergeSort transitive total written
  refine perm.eq_of_pairwise ?_ (increasing.imp le_of_lt) sorted
  intro first second firstHeld secondHeld before after
  obtain ⟨key, found⟩ := Table.mem_values_iff.mp firstHeld
  obtain ⟨other, foundOther⟩ :=
    Table.mem_values_iff.mp ((same second).mpr (List.mem_mergeSort.mp secondHeld))
  have equal : key = other := by rw [← keyed found, ← keyed foundOther, le_antisymm before after]
  exact Option.some.inj (found.symm.trans (equal ▸ foundOther))

/-- The document of the tree of a document has the same entries, in the order of their identifiers. -/
theorem ofTree_of_toTree
    (given : document.toTree = .ok tree) :
    ofTree tree = document.sorted := by
  have distinct := (legal_and_distinct_of_toTree given).2
  simp only [Tree.Distinct, entities, List.pairwise_append, List.pairwise_map] at distinct
  obtain ⟨⟨scenesDistinct, dialoguesDistinct, _⟩, actionsDistinct, _⟩ := distinct
  have scenes : tree.scenes.values = document.sorted.scenes := by
    refine values_eq_mergeSort (fun found => ?_) (scenesDistinct.imp fun different => different rfl) fun scene => ?_
    · exact ((get?_toTree_eq_some_iff given).mp (Tree.get?_scene_eq_some_iff.mpr ⟨_, found, rfl⟩)).2.2
    · simpa [Tree.entities, entities] using mem_entities_toTree_iff given (.scene scene)
  have dialogues : tree.dialogues.values = document.sorted.dialogues := by
    refine values_eq_mergeSort (fun found => ?_) (dialoguesDistinct.imp fun different => different rfl)
      fun dialogue => ?_
    · exact ((get?_toTree_eq_some_iff given).mp (Tree.get?_dialogue_eq_some_iff.mpr ⟨_, found, rfl⟩)).2.2
    · simpa [Tree.entities, entities] using mem_entities_toTree_iff given (.dialogue dialogue)
  have actions : tree.actions.values = document.sorted.actions := by
    refine values_eq_mergeSort (fun found => ?_) (actionsDistinct.imp fun different => different rfl) fun action => ?_
    · exact ((get?_toTree_eq_some_iff given).mp (Tree.get?_action_eq_some_iff.mpr ⟨_, found, rfl⟩)).2.2
    · simpa [Tree.entities, entities] using mem_entities_toTree_iff given (.action action)
  rw [ofTree, scenes, dialogues, actions]

/-- A tree whose names are in order, such as a certified one, is given back by its document, whatever its contexts are.
Conversely, the tree of a document has for its document the same entries, sorted by identifier. -/
theorem toTree_ofTree_and_back :
    (∀ tree : Tree, tree.Named → (ofTree tree).toTree = .ok tree) ∧
      (∀ valid : ValidTree, (ofTree valid.tree).toTree = .ok valid.tree) ∧
        ∀ (document : Document) (tree : Tree), document.toTree = .ok tree → ofTree tree = document.sorted :=
  ⟨fun _ named => toTree_ofTree named, fun valid => toTree_ofTree valid.named, fun _ _ given => ofTree_of_toTree given⟩

/-- The small talk with its actions written the other way round. -/
def smallTalkReversed : Document :=
  { ofTree smallTalk with actions := (ofTree smallTalk).actions.reverse }

/-- The small talk comes back from its document, and from one with its actions written the other way round, whose order
is lost. -/
theorem toTree_smallTalk :
    smallTalk.Named ∧
      (ofTree smallTalk).toTree = .ok smallTalk ∧
        smallTalkReversed.toTree = .ok smallTalk ∧
          ofTree smallTalk = smallTalkReversed.sorted := by
  have named : smallTalk.Named := smallTalkValid.named
  have given : smallTalkReversed.toTree = .ok smallTalk := by cbv
  exact ⟨named, toTree_ofTree_and_back.1 smallTalk named, given, toTree_ofTree_and_back.2.2 _ _ given⟩

end Document
end Parley
