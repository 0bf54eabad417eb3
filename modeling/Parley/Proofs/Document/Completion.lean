import Mathlib
import Parley.Proofs.Document.Entries

/-!
# Documents with nothing missing

A document that was written lacks nothing: what is read of it is every field of every entry, and completing that gives the
document again.
-/

namespace Parley

/-! ## What is read of a written document -/

/-- The entry of a scene as it is read. -/
def PartialScene.of (scene : Scene) : PartialScene :=
  { id := some (.text scene.id), start := some (.text scene.start), context := some scene.context }

/-- The entry of a dialogue as it is read. -/
def PartialDialogue.of (dialogue : Dialogue) : PartialDialogue :=
  { id := some (.text dialogue.id), text := some dialogue.text, actions := some (dialogue.actions.map .text),
    context := some dialogue.context }

/-- The entry of an action as it is read. -/
def PartialAction.of (action : Action) : PartialAction :=
  { id := some (.text action.id), owner := some (.text action.owner), next := some (.text action.next.text),
    text := action.text, context := some action.context }

namespace PartialDocument

open Document (Defect)

/-- A document as it is read. -/
def of (document : Document) : PartialDocument :=
  { scenes := some (document.scenes.map .of), dialogues := some (document.dialogues.map .of),
    actions := some (document.actions.map .of) }

theorem completeFrom_map
    {α β : Type}
    {complete : Nat → α → Except Defect β}
    {reading : β → α}
    (entries : List β)
    (index : Nat)
    (completes : ∀ entry ∈ entries, ∀ index, complete index (reading entry) = .ok entry) :
    completeFrom complete index (entries.map reading) = .ok entries := by
  induction entries generalizing index with
  | nil => rfl
  | cons entry rest inductionHypothesis =>
      obtain ⟨first, further⟩ := List.forall_mem_cons.mp completes
      rw [List.map_cons, completeFrom, first, inductionHypothesis (index + 1) further]
      rfl

theorem completeScene_of
    (scene : Scene)
    (index : Nat) :
    completeScene index (.of scene) = .ok scene := rfl

theorem completeDialogue_of
    (dialogue : Dialogue)
    (index : Nat) :
    completeDialogue index (.of dialogue) = .ok dialogue := by
  have ids : (dialogue.actions.map WrittenId.text).map WrittenId.id = dialogue.actions := by
    rw [List.map_map]
    exact List.map_id _
  simp only [completeDialogue, PartialDialogue.of, requiredId, required, Except.map, bind, Except.bind, ids]
  rfl

theorem completeAction_of
    {action : Action}
    (nextLegal : ∀ {next}, action.next = .dialogue next → Identifier.isLegal next)
    (index : Nat) :
    completeAction index (.of action) = .ok action := by
  have parsed : Next.parse? action.next.text = some action.next := Next.parse?_eq_some_iff.mpr ⟨rfl, nextLegal⟩
  simp only [completeAction, PartialAction.of, requiredId, required, Except.map, bind, Except.bind, WrittenId.id,
    requireNext, parsed]
  rfl

/-- A document is complete as it is read if what follows its actions is legal. -/
theorem complete_of
    {document : Document}
    (nextLegal : ∀ action ∈ document.actions, ∀ {next}, action.next = .dialogue next → Identifier.isLegal next) :
    (of document).complete = .ok document := by
  have scenes := completeFrom_map document.scenes 0 fun scene _ => completeScene_of scene
  have dialogues := completeFrom_map document.dialogues 0 fun dialogue _ => completeDialogue_of dialogue
  have actions := completeFrom_map document.actions 0 fun action member => completeAction_of (nextLegal action member)
  simp only [complete, of, requiredGroup, bind, Except.bind, scenes, dialogues, actions]
  rfl

end PartialDocument

/-- In the document of a tree whose names are in order, what follows actions is legal. -/
theorem Tree.Named.next_legal
    {tree : Tree}
    (named : tree.Named) :
    ∀ action ∈ (Document.ofTree tree).actions, ∀ {next}, action.next = .dialogue next → Identifier.isLegal next := by
  intro action member
  obtain ⟨key, found⟩ := Table.mem_values_iff.mp member
  exact (Entity.spelled_action_iff.mp (named.spelled (get?_action_eq_some_iff.mpr ⟨action, found, rfl⟩))).2.2

end Parley
