import Parley.Proofs.Draft.Linking
import Parley.Proofs.Integrity.Standing

/-!
# Actions that are missing from lists

The check reports an unlisted action only where an action is missing from the list of its owner, which is what finishing a
draft looks for.
-/

namespace Parley
namespace Integrity

variable {tree : Tree}

theorem category_of_mem_ownerFindings
    {action : Action}
    {finding : Finding}
    (member : finding ∈ ownerFindings tree action) :
    finding.matter.category = .danglingReference ∨
      finding.matter.category = .unlistedAction ∧ Draft.isUnlisted tree action = true := by
  unfold ownerFindings at member
  split at member
  · obtain rfl := List.mem_singleton.mp member
    exact .inl rfl
  · rename_i owner found
    split at member
    · cases member
    · rename_i unlisted
      obtain rfl := List.mem_singleton.mp member
      rw [Bool.not_eq_true] at unlisted
      refine .inr ⟨rfl, ?_⟩
      rw [Draft.isUnlisted]
      simp only [found, unlisted, Bool.not_false]

/-- A finding about references is about a reference that leads nowhere, an action of another dialogue, or an action that is
missing from its owner's list. -/
theorem category_of_mem_referenceFindings
    {finding : Finding}
    (member : finding ∈ referenceFindings tree) :
    finding.matter.category = .danglingReference ∨ finding.matter.category = .ownershipMismatch ∨
      finding.matter.category = .unlistedAction ∧
        ∃ action ∈ tree.actions.values, Draft.isUnlisted tree action = true := by
  simp only [referenceFindings, List.mem_append, List.mem_flatMap] at member
  rcases member with (⟨action, stored, ofOwner | ofNext⟩ | ⟨scene, _, ofStart⟩) | ⟨dialogue, _, action, _, ofListed⟩
  · rcases category_of_mem_ownerFindings ofOwner with dangling | ⟨unlisted, missing⟩
    · exact .inl dangling
    · exact .inr (.inr ⟨unlisted, action, stored, missing⟩)
  · unfold nextFindings at ofNext
    split at ofNext
    · cases ofNext
    · split at ofNext
      · cases ofNext
      · obtain rfl := List.mem_singleton.mp ofNext
        exact .inl rfl
  · unfold startFindings at ofStart
    split at ofStart
    · cases ofStart
    · obtain rfl := List.mem_singleton.mp ofStart
      exact .inl rfl
  · unfold listedFindings at ofListed
    split at ofListed
    · obtain rfl := List.mem_singleton.mp ofListed
      exact .inl rfl
    · split at ofListed
      · cases ofListed
      · obtain rfl := List.mem_singleton.mp ofListed
        exact .inr (.inl rfl)

/-- The check reports no unlisted action where every action is in the list of its owner. -/
theorem about_unlistedAction_of_listed
    (listed : ∀ action ∈ tree.actions.values, Draft.isUnlisted tree action = false)
    (rules : Rules) :
    (check rules tree).about .unlistedAction = [] := by
  rw [about_check_append, List.filter_eq_nil_iff.mpr]
  · rfl
  · intro finding member
    rw [decide_eq_true_eq]
    rcases List.mem_append.mp member with ofIdentifier | ofReference
    · rcases List.mem_append.mp ofIdentifier with illegal | drifted
      · obtain ⟨_, _, _, _, rfl⟩ := exists_of_mem_illegalIdentifiers illegal
        exact Category.noConfusion
      · obtain ⟨_, _, _, rfl⟩ := exists_of_mem_driftedKeys drifted
        exact Category.noConfusion
    · rcases category_of_mem_referenceFindings ofReference with dangling | foreign | ⟨_, action, stored, unlisted⟩
      · rw [dangling]
        exact Category.noConfusion
      · rw [foreign]
        exact Category.noConfusion
      · rw [listed action stored] at unlisted
        cases unlisted

end Integrity
end Parley
