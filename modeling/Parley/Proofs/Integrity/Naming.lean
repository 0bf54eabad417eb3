import Parley.Proofs.Integrity.WellFormed
import Parley.Proofs.Tree.Store

/-!
# Trees whose names are in order

The check has nothing to say about identifiers and keys exactly when every entity stands under its own identifier and all
identifiers and references are legal.  What is left then are references that lead nowhere, lists and owners that disagree,
and orphans.
-/

namespace Parley

variable {tree : Tree}

theorem Entity.spelled_scene_iff
    {scene : Scene} :
    (Entity.scene scene).Spelled ↔ Identifier.isLegal scene.id ∧ Identifier.isLegal scene.start := by
  simp [Spelled, names]

theorem Entity.spelled_dialogue_iff
    {dialogue : Dialogue} :
    (Entity.dialogue dialogue).Spelled ↔
      Identifier.isLegal dialogue.id ∧ ∀ action ∈ dialogue.actions, Identifier.isLegal action := by
  simp [Spelled, names]

theorem Entity.spelled_action_iff
    {action : Action} :
    (Entity.action action).Spelled ↔
      Identifier.isLegal action.id ∧ Identifier.isLegal action.owner ∧
        ∀ {next}, action.next = .dialogue next → Identifier.isLegal next := by
  simp [Spelled, names, Next.dialogue?_eq_some_iff]

/-- A text says what follows an action exactly if that is written so, and a dialogue that follows has a legal name. -/
theorem Next.parse?_eq_some_iff
    {text : String}
    {next : Next} :
    parse? text = some next ↔ next.text = text ∧ ∀ {id}, next = .dialogue id → Identifier.isLegal id := by
  unfold parse?
  constructor
  · intro parsed
    split at parsed
    · rename_i terminal
      cases parsed
      exact ⟨(beq_iff_eq.mp terminal).symm, nofun⟩
    · split at parsed
      · rename_i legal
        cases parsed
        refine ⟨rfl, ?_⟩
        rintro _ ⟨⟩
        exact legal
      · cases parsed
  · rintro ⟨rfl, legal⟩
    cases next with
    | finish => rfl
    | dialogue id =>
        have idLegal := legal rfl
        have notTerminal : id ≠ Identifier.terminal := by
          rintro rfl
          exact absurd idLegal (by decide)
        simp [Next.text, notTerminal, idLegal]

namespace Integrity

/-- Names are in order exactly when the check finds no illegal identifier and no drifted key. -/
theorem named_iff :
    tree.Named ↔ illegalIdentifiers tree = [] ∧ driftedKeys tree = [] := by
  rw [illegalIdentifiers_eq_nil_iff, driftedKeys_eq_nil_iff]
  constructor
  · intro named
    have sceneNamed {key scene} (found : tree.scenes.get? key = some scene) :=
      Tree.get?_scene_eq_some_iff.mpr ⟨scene, found, rfl⟩
    have dialogueNamed {key dialogue} (found : tree.dialogues.get? key = some dialogue) :=
      Tree.get?_dialogue_eq_some_iff.mpr ⟨dialogue, found, rfl⟩
    have actionNamed {key action} (found : tree.actions.get? key = some action) :=
      Tree.get?_action_eq_some_iff.mpr ⟨action, found, rfl⟩
    refine ⟨⟨fun found => ?_, fun found => ?_, fun found => ?_⟩, fun found => ?_, fun found => ?_, fun found => ?_⟩
    · rw [← named.id_eq (sceneNamed found)]
      exact Entity.spelled_scene_iff.mp (named.spelled (sceneNamed found))
    · rw [← named.id_eq (dialogueNamed found)]
      exact Entity.spelled_dialogue_iff.mp (named.spelled (dialogueNamed found))
    · rw [← named.id_eq (actionNamed found)]
      exact Entity.spelled_action_iff.mp (named.spelled (actionNamed found))
    · exact (named.id_eq (sceneNamed found)).symm
    · exact (named.id_eq (dialogueNamed found)).symm
    · exact (named.id_eq (actionNamed found)).symm
  · rintro ⟨⟨sceneLegal, dialogueLegal, actionLegal⟩, sceneId, dialogueId, actionId⟩
    constructor
    · intro kind key entity found
      cases kind with
      | scene =>
          obtain ⟨scene, stored, rfl⟩ := Tree.get?_scene_eq_some_iff.mp found
          exact (sceneId stored).symm
      | dialogue =>
          obtain ⟨dialogue, stored, rfl⟩ := Tree.get?_dialogue_eq_some_iff.mp found
          exact (dialogueId stored).symm
      | action =>
          obtain ⟨action, stored, rfl⟩ := Tree.get?_action_eq_some_iff.mp found
          exact (actionId stored).symm
    · intro kind key entity found
      cases kind with
      | scene =>
          obtain ⟨scene, stored, rfl⟩ := Tree.get?_scene_eq_some_iff.mp found
          rw [Entity.spelled_scene_iff, ← sceneId stored]
          exact sceneLegal stored
      | dialogue =>
          obtain ⟨dialogue, stored, rfl⟩ := Tree.get?_dialogue_eq_some_iff.mp found
          rw [Entity.spelled_dialogue_iff, ← dialogueId stored]
          exact dialogueLegal stored
      | action =>
          obtain ⟨action, stored, rfl⟩ := Tree.get?_action_eq_some_iff.mp found
          rw [Entity.spelled_action_iff, ← actionId stored]
          exact actionLegal stored

/-- The names of a coherent tree are in order. -/
theorem named_of_coherent
    (coherent : tree.Coherent) :
    tree.Named := by
  have none := faults_eq_nil_iff.mpr coherent
  rw [faults, List.append_eq_nil_iff, List.append_eq_nil_iff] at none
  exact named_iff.mpr none.1

theorem ValidTree.named
    (valid : ValidTree) :
    valid.tree.Named :=
  named_of_coherent valid.coherent

end Integrity
end Parley
