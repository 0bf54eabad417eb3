import Parley.Proofs.Integrity.Findings
import Parley.Proofs.Integrity.Paths

/-!
# The standing of dialogues

The check gives every dialogue the standing that paths through the tree give it, whatever is wrong with the tree.  Its
findings on orphans, dead ends and loops name the dialogues of these standings.
-/

namespace Parley
namespace Integrity

/-- The standing that a dialogue has by the paths that lead to it. -/
def HasStanding
    (rules : Rules)
    (tree : Tree)
    (dialogue : String) : Reachability → Prop
  | .unreachable => ¬CanReach rules tree dialogue
  | .cyclic => CanReach rules tree dialogue ∧ CanReturn tree dialogue
  | .acyclic => CanReach rules tree dialogue ∧ ¬CanReturn tree dialogue

/-- What the diagnostics say in one group of findings, errors first. -/
def Diagnostics.about
    (diagnostics : Diagnostics)
    (category : Category) : List Finding :=
  (diagnostics.errors ++ diagnostics.warnings ++ diagnostics.notes).filter (·.matter.category = category)

variable {rules : Rules} {tree : Tree}

/-- A dialogue has the standing that the check gives it, and no other. -/
theorem standing_eq_iff
    {dialogue : String}
    {given : Reachability} :
    standing rules tree dialogue = given ↔ HasStanding rules tree dialogue given := by
  unfold standing classify
  by_cases reach : CanReach rules tree dialogue
  · have reached := mem_reachedDialogues.mpr reach
    by_cases back : CanReturn tree dialogue
    · have looping := (mem_loopingDialogues reach).mpr back
      cases given <;> simp [HasStanding, reached, looping, reach, back]
    · have notLooping := mt (mem_loopingDialogues reach).mp back
      cases given <;> simp [HasStanding, reached, notLooping, reach, back]
  · have notReached := mt mem_reachedDialogues.mp reach
    cases given <;> simp [HasStanding, notReached, reach]

/-- A dialogue that can be reached is cyclic or acyclic. -/
theorem exists_hasStanding_iff
    {dialogue : String} :
    (∃ given, HasStanding rules tree dialogue given ∧ given ≠ .unreachable) ↔ CanReach rules tree dialogue := by
  constructor
  · rintro ⟨given, standing, reached⟩
    cases given with
    | acyclic => exact standing.1
    | cyclic => exact standing.1
    | unreachable => exact absurd rfl reached
  · intro reach
    by_cases back : CanReturn tree dialogue
    · exact ⟨.cyclic, ⟨reach, back⟩, nofun⟩
    · exact ⟨.acyclic, ⟨reach, back⟩, nofun⟩

theorem reachability_check_get?
    (rules : Rules)
    (tree : Tree)
    (dialogue : String) :
    (check rules tree).reachability.get? dialogue =
      (tree.dialogues.get? dialogue).map fun _ => standing rules tree dialogue :=
  Table.get?_mapEntries ..

/-- The check gives every stored dialogue a standing, and nothing else. -/
theorem reachability_check_eq_some_iff
    {dialogue : String}
    {given : Reachability} :
    (check rules tree).reachability.get? dialogue = some given ↔
      dialogue ∈ tree.dialogues.keys ∧ HasStanding rules tree dialogue given := by
  rw [reachability_check_get?, Option.map_eq_some_iff, Table.mem_keys_iff, standing_eq_iff]
  exact exists_and_right

/-- For stored dialogues, the standings in the table are those that the check gives. -/
theorem filter_reachability_check (given : Reachability) :
    (tree.dialogues.keys.filter fun key => (check rules tree).reachability.get? key = some given) =
      tree.dialogues.keys.filter fun key => standing rules tree key = given := by
  apply List.filter_congr
  intro key isKey
  rw [decide_eq_decide, reachability_check_eq_some_iff, standing_eq_iff]
  exact and_iff_right isKey

/-! ## Findings of one group -/

/-- A group of findings consists of the faults that belong to it, and of the orphans, the dead ends or the loops. -/
theorem about_check_append
    (rules : Rules)
    (tree : Tree)
    (category : Category) :
    (check rules tree).about category =
      (faults tree).filter (·.matter.category = category) ++
        ((if .orphanDialogue = category then orphans rules tree else []) ++
          (if .deadEnd = category then deadEnds rules tree else []) ++
            (if .cyclicPath = category then loops rules tree else [])) := by
  have ofOrphans : (orphans rules tree).filter (·.matter.category = category) =
      if .orphanDialogue = category then orphans rules tree else [] := by
    refine filter_eq_ite (fun finding member => ?_) category
    obtain ⟨key, _, rfl⟩ := List.mem_map.mp member
    rfl
  have ofDeadEnds : (deadEnds rules tree).filter (·.matter.category = category) =
      if .deadEnd = category then deadEnds rules tree else [] := by
    refine filter_eq_ite (fun finding member => ?_) category
    obtain ⟨entry, _, rfl⟩ := List.mem_map.mp member
    rfl
  have ofLoops : (loops rules tree).filter (·.matter.category = category) =
      if .cyclicPath = category then loops rules tree else [] := by
    refine filter_eq_ite (fun finding member => ?_) category
    obtain ⟨key, _, rfl⟩ := List.mem_map.mp member
    rfl
  rw [← ofOrphans, ← ofDeadEnds, ← ofLoops, Diagnostics.about, errors_check, warnings_check, notes_check]
  cases rules.orphanPolicy <;> simp

/-- A group of findings that are no faults consists of the orphans, the dead ends or the loops. -/
theorem about_check
    (rules : Rules)
    (tree : Tree)
    {category : Category}
    (notFault : category ∉ faultCategories) :
    (check rules tree).about category =
      (if .orphanDialogue = category then orphans rules tree else []) ++
        (if .deadEnd = category then deadEnds rules tree else []) ++
          (if .cyclicPath = category then loops rules tree else []) := by
  have noFaults : (faults tree).filter (·.matter.category = category) = [] := by
    apply List.filter_eq_nil_iff.mpr
    intro finding member
    rw [decide_eq_true_eq]
    rintro rfl
    exact notFault (isFault_of_mem_faults member).2
  rw [about_check_append, noFaults, List.nil_append]

/-! ## Dead ends and loops -/

/-- A warning tells of a dead end at a dialogue. -/
def Diagnostics.WarnsOfDeadEnd
    (diagnostics : Diagnostics)
    (dialogue : String) : Prop :=
  ∃ finding ∈ diagnostics.warnings, finding.matter.category = .deadEnd ∧ finding.id = dialogue

/-- No note tells of a loop. -/
def Diagnostics.Loopless (diagnostics : Diagnostics) : Prop :=
  ∀ finding ∈ diagnostics.notes, finding.matter.category ≠ .cyclicPath

theorem warnsOfDeadEnd_check_iff
    {dialogue : String} :
    (check rules tree).WarnsOfDeadEnd dialogue ↔
      CanReach rules tree dialogue ∧ ∃ stored, tree.dialogues.get? dialogue = some stored ∧ stored.actions = [] := by
  have reached (key : String) : standing rules tree key ≠ .unreachable ↔ CanReach rules tree key := by
    rw [Ne, standing_eq_iff, HasStanding, not_not]
  rw [Diagnostics.WarnsOfDeadEnd, warnings_check]
  constructor
  · rintro ⟨finding, member, isDeadEnd, rfl⟩
    rcases List.mem_append.mp member with orphan | deadEnd
    · split at orphan
      · obtain ⟨key, _, rfl⟩ := List.mem_map.mp orphan
        cases isDeadEnd
      · cases orphan
    · obtain ⟨⟨key, stored⟩, kept, rfl⟩ := List.mem_map.mp deadEnd
      obtain ⟨held, isReached⟩ := List.mem_filter.mp kept
      obtain ⟨notUnreachable, none⟩ := of_decide_eq_true isReached
      exact ⟨(reached key).mp notUnreachable, stored, Table.get?_eq_some_iff.mpr held, none⟩
  · rintro ⟨reach, stored, held, none⟩
    have member : (dialogue, stored) ∈ tree.dialogues.entries.filter fun entry =>
        standing rules tree entry.1 ≠ .unreachable ∧ entry.2.actions = [] :=
      List.mem_filter.mpr ⟨Table.get?_eq_some_iff.mp held, decide_eq_true ⟨(reached dialogue).mpr reach, none⟩⟩
    exact ⟨_, List.mem_append_right _ (List.mem_map.mpr ⟨_, member, rfl⟩), rfl, rfl⟩

/-- The check notes no loop exactly if no dialogue that can be reached can be reached again. -/
theorem loopless_check_iff :
    (check rules tree).Loopless ↔ ∀ dialogue, CanReach rules tree dialogue → ¬CanReturn tree dialogue := by
  rw [Diagnostics.Loopless, notes_check, loops]
  constructor
  · intro loopless dialogue reach back
    have stored : dialogue ∈ tree.dialogues.keys := by
      obtain ⟨middle, leads, _⟩ := Relation.TransGen.head'_iff.mp back
      exact leads.source_mem_keys
    have cyclic : standing rules tree dialogue = .cyclic := standing_eq_iff.mpr ⟨reach, back⟩
    have member : dialogue ∈ tree.dialogues.keys.filter fun key => standing rules tree key = .cyclic :=
      List.mem_filter.mpr ⟨stored, decide_eq_true cyclic⟩
    exact loopless _ (List.mem_map.mpr ⟨dialogue, member, rfl⟩) rfl
  · intro noReturn finding member
    obtain ⟨dialogue, isCyclic, rfl⟩ := List.mem_map.mp member
    obtain ⟨reach, back⟩ := standing_eq_iff.mp (of_decide_eq_true (List.mem_filter.mp isCyclic).2)
    exact absurd back (noReturn dialogue reach)

/-- The check classifies the dialogues of any tree by the paths that lead to them.  Every stored dialogue has one entry.
Each list of findings holds one severity, and over all lists the findings on orphans, loops and dead ends name the
dialogues of their standing, each once and in key order. -/
theorem check_classifies
    (rules : Rules)
    (tree : Tree) :
    (check rules tree).reachability.keys = tree.dialogues.keys ∧
      (∀ dialogue given, (check rules tree).reachability.get? dialogue = some given ↔
        dialogue ∈ tree.dialogues.keys ∧ HasStanding rules tree dialogue given) ∧
      (∀ finding ∈ (check rules tree).errors, finding.severity = .error) ∧
      (∀ finding ∈ (check rules tree).warnings, finding.severity = .warning) ∧
      (∀ finding ∈ (check rules tree).notes, finding.severity = .info) ∧
      (check rules tree).about .orphanDialogue =
        (tree.dialogues.keys.filter fun key =>
          (check rules tree).reachability.get? key = some .unreachable).map (fun key =>
            ⟨.dialogue, key, .orphan, rules.orphanPolicy.severity⟩) ∧
      (check rules tree).about .cyclicPath =
        (tree.dialogues.keys.filter fun key =>
          (check rules tree).reachability.get? key = some .cyclic).map (fun key =>
            ⟨.dialogue, key, .loop, .info⟩) ∧
      (check rules tree).about .deadEnd =
        (tree.dialogues.entries.filter fun (key, dialogue) =>
          (check rules tree).reachability.get? key ≠ some .unreachable ∧ dialogue.actions = []).map (fun (key, _) =>
            ⟨.dialogue, key, .deadEnd, .warning⟩) := by
  have ofSeverity : ∀ severity, ∀ finding ∈ (findings rules tree (reachedDialogues rules tree)
      (loopingDialogues tree (reachedDialogues rules tree))).filter (·.severity = severity),
      finding.severity = severity := by
    intro severity finding member
    exact of_decide_eq_true (List.mem_filter.mp member).2
  refine ⟨Table.keys_mapEntries .., fun _ _ => reachability_check_eq_some_iff,
    ofSeverity .error, ofSeverity .warning, ofSeverity .info, ?_, ?_, ?_⟩
  · rw [about_check rules tree (by decide), filter_reachability_check]
    simp only [reduceCtorEq, if_true, if_false, List.append_nil, orphans]
  · rw [about_check rules tree (by decide), filter_reachability_check]
    simp only [reduceCtorEq, if_true, if_false, List.nil_append, loops]
  · rw [about_check rules tree (by decide)]
    simp only [reduceCtorEq, if_true, if_false, List.nil_append, List.append_nil, deadEnds]
    congr 1
    apply List.filter_congr
    intro entry member
    have found : tree.dialogues.get? entry.1 = some entry.2 := Table.get?_eq_some_iff.mpr member
    simp [reachability_check_get?, found]

end Integrity
end Parley
