import Mathlib
import Parley.Proofs.Integrity.WellFormed

/-!
# Rules that ask for less

Rules that share more dialogues, or only warn of orphans, find no new fault and no new orphan.  Dialogues that could be
reached keep their standing: whatever leads back to them could be reached already.
-/

namespace Parley
namespace Integrity

variable {rules relaxed : Rules} {tree : Tree} {dialogue : String}

/-- Some rules ask for no more than others: they share whatever those share, and orphans are errors only if they are for
those. -/
structure Rules.Relaxes (relaxed rules : Rules) : Prop where
  shared : ∀ dialogue ∈ rules.sharedDialogues.keys, dialogue ∈ relaxed.sharedDialogues.keys
  policy : relaxed.orphanPolicy = rules.orphanPolicy ∨ relaxed.orphanPolicy = .warn

/-! ## What can be reached -/

theorem IsRoot.relax
    (relaxes : relaxed.Relaxes rules)
    (root : IsRoot rules tree dialogue) :
    IsRoot relaxed tree dialogue :=
  ⟨root.1, root.2.imp_right (relaxes.shared dialogue)⟩

theorem CanReach.relax
    (relaxes : relaxed.Relaxes rules)
    (reach : CanReach rules tree dialogue) :
    CanReach relaxed tree dialogue := by
  obtain ⟨root, isRoot, path⟩ := reach
  exact ⟨root, isRoot.relax relaxes, path⟩

/-- A dialogue that can be reached has the same standing under rules that ask for less, since the paths that lead back to it
do not depend on the rules. -/
theorem HasStanding.relax
    {given : Reachability}
    (relaxes : relaxed.Relaxes rules)
    (standing : HasStanding rules tree dialogue given)
    (reached : given ≠ .unreachable) :
    HasStanding relaxed tree dialogue given := by
  cases given with
  | acyclic => exact ⟨standing.1.relax relaxes, standing.2⟩
  | cyclic => exact ⟨standing.1.relax relaxes, standing.2⟩
  | unreachable => exact absurd rfl reached

/-! ## What the check finds -/

/-- Under rules that ask for less, the dialogues that no conversation comes to are among those from before. -/
theorem unreachable_sublist
    (relaxes : relaxed.Relaxes rules)
    (tree : Tree) :
    (tree.dialogues.keys.filter fun key => standing relaxed tree key = .unreachable).Sublist
      (tree.dialogues.keys.filter fun key => standing rules tree key = .unreachable) := by
  refine List.monotone_filter_right _ fun key orphan => ?_
  rw [decide_eq_true_eq, standing_eq_iff, HasStanding] at orphan ⊢
  exact fun reach => orphan (reach.relax relaxes)

theorem errors_relax
    (relaxes : relaxed.Relaxes rules)
    (tree : Tree) :
    (check relaxed tree).errors.Sublist (check rules tree).errors := by
  rw [errors_check, errors_check, List.append_sublist_append_left]
  split
  · rename_i strict
    have policy : relaxed.orphanPolicy = rules.orphanPolicy :=
      relaxes.policy.resolve_right fun lenient => by rw [strict] at lenient; cases lenient
    rw [if_pos (policy.symm.trans strict), orphans, orphans, policy]
    exact (unreachable_sublist relaxes tree).map _
  · exact List.nil_sublist _

/-- The dialogues that findings on orphans name. -/
theorem map_id_about_orphanDialogue
    (rules : Rules)
    (tree : Tree) :
    ((check rules tree).about .orphanDialogue).map Finding.id =
      tree.dialogues.keys.filter fun key => standing rules tree key = .unreachable := by
  rw [about_check rules tree (by decide)]
  simp only [reduceCtorEq, if_true, if_false, List.append_nil, orphans, List.map_map]
  exact List.map_id _

theorem WellFormed.relax
    (relaxes : relaxed.Relaxes rules)
    (wellFormed : WellFormed rules tree) :
    WellFormed relaxed tree := by
  rw [← errors_check_eq_nil_iff] at wellFormed ⊢
  exact List.sublist_nil.mp (wellFormed ▸ errors_relax relaxes tree)

/-- Rules that ask for less find nothing new.  Their errors are among those from before, dialogues that could be reached keep
their standing, the dialogues that are named as orphans are among those from before, and every tree that was certified is
certified again. -/
theorem check_relaxed
    (relaxes : relaxed.Relaxes rules)
    (tree : Tree) :
    (check relaxed tree).errors.Sublist (check rules tree).errors ∧
      (∀ dialogue given, (check rules tree).reachability.get? dialogue = some given → given ≠ .unreachable →
        (check relaxed tree).reachability.get? dialogue = some given) ∧
      (((check relaxed tree).about .orphanDialogue).map Finding.id).Sublist
        (((check rules tree).about .orphanDialogue).map Finding.id) ∧
      ∀ valid, validate rules tree = .ok valid → ∃ again, validate relaxed tree = .ok again ∧ again.tree = valid.tree := by
  refine ⟨errors_relax relaxes tree, fun dialogue given found reached => ?_, ?_, fun valid accepted => ?_⟩
  · rw [reachability_check_eq_some_iff] at found ⊢
    exact ⟨found.1, found.2.relax relaxes reached⟩
  · rw [map_id_about_orphanDialogue, map_id_about_orphanDialogue]
    exact unreachable_sublist relaxes tree
  · obtain ⟨wellFormed, sameTree, _⟩ := validate_eq_ok_iff.mp accepted
    obtain ⟨again, certified⟩ := exists_validate_iff.mpr (wellFormed.relax relaxes)
    exact ⟨again, certified, (validate_eq_ok_iff.mp certified).2.1.trans sameTree.symm⟩

/-- A talk beside which there is talk of the weather, which no scene leads to, and an attic. -/
def weatherTalk : Tree where
  scenes := .ofList [("inn", { id := "inn", start := "hello" })]
  dialogues := .ofList
    [("hello", { id := "hello", text := "Good day.", actions := ["leave"] }),
      ("rain", { id := "rain", text := "Wet again.", actions := ["hope"] }),
      ("sun", { id := "sun", text := "Too hot.", actions := ["fear"] }),
      ("attic", { id := "attic", text := "Dust." })]
  actions := .ofList
    [("leave", { id := "leave", owner := "hello", next := .finish }),
      ("hope", { id := "hope", owner := "rain", next := .dialogue "sun" }),
      ("fear", { id := "fear", owner := "sun", next := .dialogue "rain" })]

/-- Rules that let any conversation turn to the rain. -/
def weatherRules : Rules := { sharedDialogues := .ofList ["rain"] }

/-- Where the rain is shared, the orphans are among those from before, and the greeting stands as before. -/
theorem check_weatherTalk :
    weatherRules.Relaxes {} ∧
      ((check {} weatherTalk).about .orphanDialogue).map Finding.id = ["attic", "rain", "sun"] ∧
        (((check weatherRules weatherTalk).about .orphanDialogue).map Finding.id).Sublist ["attic", "rain", "sun"] ∧
          (check weatherRules weatherTalk).reachability.get? "hello" = some .acyclic := by
  have relaxes : weatherRules.Relaxes {} := ⟨fun _ shared => absurd shared List.not_mem_nil, .inl rfl⟩
  have orphans : ((check {} weatherTalk).about .orphanDialogue).map Finding.id = ["attic", "rain", "sun"] := by cbv
  have greeting : (check {} weatherTalk).reachability.get? "hello" = some .acyclic := by cbv
  obtain ⟨_, keeps, among, _⟩ := check_relaxed relaxes weatherTalk
  rw [orphans] at among
  exact ⟨relaxes, orphans, among, keeps "hello" .acyclic greeting Reachability.noConfusion⟩

end Integrity
end Parley
