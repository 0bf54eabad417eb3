import Parley.Proofs.Integrity.Standing

/-!
# Well-formed trees

A tree is certified exactly when its identifiers are legal and stand in their places, its references lead somewhere, its
lists of actions agree with the owners of actions, and, if the policy asks for it, every dialogue can be reached.
-/

namespace Parley

/-- Identifiers are legal and agree with keys, references lead somewhere, and dialogues list exactly the actions that
they own. -/
structure Tree.Coherent (tree : Tree) : Prop where
  scene_id : ∀ {key scene}, tree.scenes.get? key = some scene → key = scene.id ∧ Identifier.isLegal key
  dialogue_id : ∀ {key dialogue}, tree.dialogues.get? key = some dialogue → key = dialogue.id ∧ Identifier.isLegal key
  action_id : ∀ {key action}, tree.actions.get? key = some action → key = action.id ∧ Identifier.isLegal key
  start_legal : ∀ {key scene}, tree.scenes.get? key = some scene → Identifier.isLegal scene.start
  listed_legal : ∀ {key dialogue}, tree.dialogues.get? key = some dialogue →
    ∀ action ∈ dialogue.actions, Identifier.isLegal action
  owner_legal : ∀ {key action}, tree.actions.get? key = some action → Identifier.isLegal action.owner
  next_legal : ∀ {key action}, tree.actions.get? key = some action →
    ∀ {next}, action.next = .dialogue next → Identifier.isLegal next
  start_stored : ∀ {key scene}, tree.scenes.get? key = some scene → scene.start ∈ tree.dialogues.keys
  next_stored : ∀ {key action}, tree.actions.get? key = some action →
    ∀ {next}, action.next = .dialogue next → next ∈ tree.dialogues.keys
  owner_lists : ∀ {key action}, tree.actions.get? key = some action →
    ∃ owner, tree.dialogues.get? action.owner = some owner ∧ key ∈ owner.actions
  listed_owned : ∀ {key dialogue}, tree.dialogues.get? key = some dialogue →
    ∀ action ∈ dialogue.actions, ∃ stored, tree.actions.get? action = some stored ∧ stored.owner = key

namespace Integrity

/-- A tree is well formed under some rules if it is coherent and has no orphan that the rules forbid. -/
def WellFormed
    (rules : Rules)
    (tree : Tree) : Prop :=
  tree.Coherent ∧
    (rules.orphanPolicy = .error → ∀ dialogue ∈ tree.dialogues.keys, CanReach rules tree dialogue)

/-! ## When nothing is found -/

theorem illegal?_eq_nil_iff
    {entity : Kind}
    {key value : String}
    {slot : Slot} :
    illegal? entity key slot value = [] ↔ Identifier.isLegal value := by
  simp [illegal?]

theorem drifted?_eq_nil_iff
    {entity : Kind}
    {key storedId : String} :
    drifted? entity key storedId = [] ↔ key = storedId := by
  simp [drifted?]

theorem ownerFindings_eq_nil_iff
    {tree : Tree}
    {action : Action} :
    ownerFindings tree action = [] ↔
      ∃ owner, tree.dialogues.get? action.owner = some owner ∧ action.id ∈ owner.actions := by
  unfold ownerFindings
  split
  · rename_i missing
    simp [missing]
  · rename_i owner found
    simp [found, Dialogue.offers]

theorem nextFindings_eq_nil_iff
    {tree : Tree}
    {action : Action} :
    nextFindings tree action = [] ↔ ∀ {next}, action.next = .dialogue next → next ∈ tree.dialogues.keys := by
  unfold nextFindings
  split
  · rename_i finish
    simp [finish]
  · rename_i next leads
    simp [leads, ← Table.contains_iff]

theorem startFindings_eq_nil_iff
    {tree : Tree}
    {scene : Scene} :
    startFindings tree scene = [] ↔ scene.start ∈ tree.dialogues.keys := by
  simp [startFindings, ← Table.contains_iff]

theorem listedFindings_eq_nil_iff
    {tree : Tree}
    {dialogue : Dialogue}
    {action : String} :
    listedFindings tree dialogue action = [] ↔
      ∃ stored, tree.actions.get? action = some stored ∧ stored.owner = dialogue.id := by
  unfold listedFindings
  split
  · rename_i missing
    simp [missing]
  · rename_i stored found
    simp [found]

theorem illegalIdentifiers_eq_nil_iff
    {tree : Tree} :
    illegalIdentifiers tree = [] ↔
      (∀ {key scene}, tree.scenes.get? key = some scene →
        Identifier.isLegal key ∧ Identifier.isLegal scene.start) ∧
      (∀ {key dialogue}, tree.dialogues.get? key = some dialogue →
        Identifier.isLegal key ∧ ∀ action ∈ dialogue.actions, Identifier.isLegal action) ∧
      (∀ {key action}, tree.actions.get? key = some action →
        Identifier.isLegal key ∧ Identifier.isLegal action.owner ∧
          ∀ {next}, action.next = .dialogue next → Identifier.isLegal next) := by
  simp only [illegalIdentifiers, List.append_eq_nil_iff, List.flatMap_eq_nil_iff, Prod.forall, illegal?_eq_nil_iff,
    ← Table.get?_eq_some_iff, Option.mem_toList, Next.dialogue?_eq_some_iff, and_assoc]

theorem driftedKeys_eq_nil_iff
    {tree : Tree} :
    driftedKeys tree = [] ↔
      (∀ {key scene}, tree.scenes.get? key = some scene → key = scene.id) ∧
      (∀ {key dialogue}, tree.dialogues.get? key = some dialogue → key = dialogue.id) ∧
      (∀ {key action}, tree.actions.get? key = some action → key = action.id) := by
  simp only [driftedKeys, List.append_eq_nil_iff, List.flatMap_eq_nil_iff, Prod.forall, drifted?_eq_nil_iff,
    ← Table.get?_eq_some_iff, and_assoc]

theorem referenceFindings_eq_nil_iff
    {tree : Tree} :
    referenceFindings tree = [] ↔
      (∀ action ∈ tree.actions.values, ownerFindings tree action = [] ∧ nextFindings tree action = []) ∧
      (∀ scene ∈ tree.scenes.values, startFindings tree scene = []) ∧
      (∀ dialogue ∈ tree.dialogues.values, ∀ action ∈ dialogue.actions, listedFindings tree dialogue action = []) := by
  simp only [referenceFindings, List.append_eq_nil_iff, List.flatMap_eq_nil_iff, and_assoc]

/-- A tree has no faults exactly when it is coherent. -/
theorem faults_eq_nil_iff
    {tree : Tree} :
    faults tree = [] ↔ tree.Coherent := by
  rw [faults, List.append_eq_nil_iff, List.append_eq_nil_iff, illegalIdentifiers_eq_nil_iff, driftedKeys_eq_nil_iff,
    referenceFindings_eq_nil_iff]
  constructor
  · rintro ⟨⟨⟨sceneLegal, dialogueLegal, actionLegal⟩, sceneId, dialogueId, actionId⟩, actionRefs, sceneRefs, listRefs⟩
    constructor
    case scene_id => exact fun found => ⟨sceneId found, (sceneLegal found).1⟩
    case dialogue_id => exact fun found => ⟨dialogueId found, (dialogueLegal found).1⟩
    case action_id => exact fun found => ⟨actionId found, (actionLegal found).1⟩
    case start_legal => exact fun found => (sceneLegal found).2
    case listed_legal => exact fun found => (dialogueLegal found).2
    case owner_legal => exact fun found => (actionLegal found).2.1
    case next_legal => exact fun found => (actionLegal found).2.2
    case start_stored =>
      intro key scene found
      exact startFindings_eq_nil_iff.mp (sceneRefs scene (Table.mem_values_iff.mpr ⟨key, found⟩))
    case next_stored =>
      intro key action found
      exact nextFindings_eq_nil_iff.mp (actionRefs action (Table.mem_values_iff.mpr ⟨key, found⟩)).2
    case owner_lists =>
      intro key action found
      rw [actionId found]
      exact ownerFindings_eq_nil_iff.mp (actionRefs action (Table.mem_values_iff.mpr ⟨key, found⟩)).1
    case listed_owned =>
      intro key dialogue found action listed
      rw [dialogueId found]
      exact listedFindings_eq_nil_iff.mp
        (listRefs dialogue (Table.mem_values_iff.mpr ⟨key, found⟩) action listed)
  · intro coherent
    refine ⟨⟨⟨?_, ?_, ?_⟩, ?_, ?_, ?_⟩, ?_, ?_, ?_⟩
    · exact fun found => ⟨(coherent.scene_id found).2, coherent.start_legal found⟩
    · exact fun found => ⟨(coherent.dialogue_id found).2, coherent.listed_legal found⟩
    · exact fun found => ⟨(coherent.action_id found).2, coherent.owner_legal found, coherent.next_legal found⟩
    · exact fun found => (coherent.scene_id found).1
    · exact fun found => (coherent.dialogue_id found).1
    · exact fun found => (coherent.action_id found).1
    · intro action member
      obtain ⟨key, found⟩ := Table.mem_values_iff.mp member
      rw [ownerFindings_eq_nil_iff, nextFindings_eq_nil_iff, ← (coherent.action_id found).1]
      exact ⟨coherent.owner_lists found, coherent.next_stored found⟩
    · intro scene member
      obtain ⟨key, found⟩ := Table.mem_values_iff.mp member
      exact startFindings_eq_nil_iff.mpr (coherent.start_stored found)
    · intro dialogue member action listed
      obtain ⟨key, found⟩ := Table.mem_values_iff.mp member
      rw [listedFindings_eq_nil_iff, ← (coherent.dialogue_id found).1]
      exact coherent.listed_owned found action listed

/-- There are no orphans exactly when every dialogue can be reached. -/
theorem orphans_eq_nil_iff
    {rules : Rules}
    {tree : Tree} :
    orphans rules tree = [] ↔ ∀ dialogue ∈ tree.dialogues.keys, CanReach rules tree dialogue := by
  rw [orphans, List.map_eq_nil_iff, List.filter_eq_nil_iff]
  apply forall₂_congr
  intro dialogue _
  rw [decide_eq_true_eq, standing_eq_iff, HasStanding, not_not]

/-- The check finds no error exactly when the tree is well formed. -/
theorem errors_check_eq_nil_iff
    {rules : Rules}
    {tree : Tree} :
    (check rules tree).errors = [] ↔ WellFormed rules tree := by
  rw [errors_check, List.append_eq_nil_iff, faults_eq_nil_iff, WellFormed]
  apply and_congr_right
  intro _
  split
  · rename_i policy
    simp [policy, orphans_eq_nil_iff]
  · rename_i policy
    simp [policy]

theorem isOk_check_iff
    {rules : Rules}
    {tree : Tree} :
    (check rules tree).isOk = true ↔ WellFormed rules tree := by
  rw [Diagnostics.isOk, List.isEmpty_iff, errors_check_eq_nil_iff]

theorem wellFormed_empty
    (rules : Rules) :
    WellFormed rules Tree.empty := by
  refine ⟨?_, fun _ => nofun⟩
  constructor <;> exact nofun

/-- A certified tree is coherent, whatever rules it was certified under. -/
theorem ValidTree.coherent
    (valid : ValidTree) :
    valid.tree.Coherent := by
  obtain ⟨rules, found, ok⟩ := valid.certified
  rw [← found] at ok
  exact (isOk_check_iff.mp ok).1

/-- What is certified is the tree itself with the findings of the check. -/
theorem validate_eq_ok_iff
    {rules : Rules}
    {tree : Tree}
    {valid : ValidTree} :
    validate rules tree = .ok valid ↔
      WellFormed rules tree ∧ valid.tree = tree ∧ valid.diagnostics = check rules tree := by
  rw [← isOk_check_iff]
  constructor
  · intro accepted
    unfold validate at accepted
    split at accepted
    · rename_i ok
      cases accepted
      exact ⟨ok, rfl, rfl⟩
    · cases accepted
  · rintro ⟨ok, sameTree, sameFindings⟩
    rw [validate, dif_pos ok, Except.ok.injEq]
    obtain ⟨stored, found, _⟩ := valid
    simp only at sameTree sameFindings
    simp only [sameTree, sameFindings]

/-- A tree can be certified exactly if it is well formed. -/
theorem exists_validate_iff
    {rules : Rules}
    {tree : Tree} :
    (∃ valid, validate rules tree = .ok valid) ↔ WellFormed rules tree := by
  constructor
  · rintro ⟨valid, certified⟩
    exact (validate_eq_ok_iff.mp certified).1
  · intro wellFormed
    have ok := isOk_check_iff.mpr wellFormed
    exact ⟨⟨tree, check rules tree, rules, rfl, ok⟩, dif_pos ok⟩

theorem validate_eq_error_iff
    {rules : Rules}
    {tree : Tree}
    {error : ValidationError} :
    validate rules tree = .error error ↔
      ¬WellFormed rules tree ∧ error = ⟨(check rules tree).errors⟩ := by
  rw [← isOk_check_iff]
  unfold validate
  split
  · rename_i ok
    simp [ok]
  · rename_i failed
    simp [failed, eq_comm]

/-- Exactly the well-formed trees are certified, unchanged and with the findings of the check.  Any other tree is refused
with the errors that the check finds, of which there is at least one. -/
theorem validate_certifies
    (rules : Rules)
    (tree : Tree) :
    ((∃ valid, validate rules tree = .ok valid ∧ valid.tree = tree ∧ valid.diagnostics = check rules tree) ↔
      WellFormed rules tree) ∧
    ((∃ error, validate rules tree = .error error ∧ error.violations ≠ [] ∧
        error.violations = (check rules tree).errors) ↔
      ¬WellFormed rules tree) := by
  constructor
  · constructor
    · rintro ⟨valid, accepted, _⟩
      exact (validate_eq_ok_iff.mp accepted).1
    · intro wellFormed
      let valid : ValidTree := ⟨tree, check rules tree, rules, rfl, isOk_check_iff.mpr wellFormed⟩
      exact ⟨valid, validate_eq_ok_iff.mpr ⟨wellFormed, rfl, rfl⟩, rfl, rfl⟩
  · constructor
    · rintro ⟨error, refused, _⟩
      exact (validate_eq_error_iff.mp refused).1
    · intro illFormed
      have found := mt errors_check_eq_nil_iff.mp illFormed
      exact ⟨_, validate_eq_error_iff.mpr ⟨illFormed, rfl⟩, found, rfl⟩

end Integrity
end Parley
