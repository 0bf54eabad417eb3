import Parley.Integrity.Check

/-!
# What the check lists

The findings of a check are the faults of identifiers and references, the orphans, the dead ends and the loops.  Their
severity tells in which list of the diagnostics they stand.
-/

namespace Parley
namespace Integrity

/-- What is wrong with the identifiers and references of a tree. -/
def faults (tree : Tree) : List Finding :=
  illegalIdentifiers tree ++ driftedKeys tree ++ referenceFindings tree

/-- The standing that the check gives to a dialogue. -/
def standing (rules : Rules) (tree : Tree) (dialogue : String) : Reachability :=
  classify (reachedDialogues rules tree) (loopingDialogues tree (reachedDialogues rules tree)) dialogue

/-- The dialogues that no conversation can come to. -/
def orphans (rules : Rules) (tree : Tree) : List Finding :=
  (tree.dialogues.keys.filter fun key => standing rules tree key = .unreachable).map fun key =>
    ⟨.dialogue, key, .orphan, rules.orphanPolicy.severity⟩

/-- The dialogues that a conversation can come to and that offer nothing. -/
def deadEnds (rules : Rules) (tree : Tree) : List Finding :=
  (tree.dialogues.entries.filter fun (key, dialogue) =>
    standing rules tree key ≠ .unreachable ∧ dialogue.actions = []).map fun (key, _) =>
      ⟨.dialogue, key, .deadEnd, .warning⟩

/-- The dialogues that a conversation can come to again. -/
def loops (rules : Rules) (tree : Tree) : List Finding :=
  (tree.dialogues.keys.filter fun key => standing rules tree key = .cyclic).map fun key =>
    ⟨.dialogue, key, .loop, .info⟩

/-- The groups of findings about identifiers and references. -/
def faultCategories : List Category :=
  [.invalidIdentifier, .danglingReference, .ownershipMismatch, .unlistedAction]

/-! ## Faults are errors -/

/-- A finding is an error about an identifier or a reference. -/
def Finding.IsFault (finding : Finding) : Prop :=
  finding.severity = .error ∧ finding.matter.category ∈ faultCategories

theorem isFault_of_mem_unless
    {condition : Prop}
    [Decidable condition]
    {fault finding : Finding}
    (isFault : fault.IsFault)
    (member : finding ∈ if condition then [] else [fault]) :
    finding.IsFault := by
  split at member
  · contradiction
  · exact List.mem_singleton.mp member ▸ isFault

/-- All that can be found about the identifiers of a tree. -/
theorem exists_of_mem_illegalIdentifiers
    {tree : Tree}
    {finding : Finding}
    (member : finding ∈ illegalIdentifiers tree) :
    ∃ entity key slot value, finding = ⟨entity, key, .illegalIdentifier slot value, .error⟩ := by
  have found {entity : Kind} {key value : String} {slot : Slot} (member : finding ∈ illegal? entity key slot value) :
      ∃ entity key slot value, finding = ⟨entity, key, .illegalIdentifier slot value, .error⟩ := by
    unfold illegal? at member
    split at member
    · contradiction
    · exact ⟨entity, key, slot, value, List.mem_singleton.mp member⟩
  simp only [illegalIdentifiers, List.mem_append, List.mem_flatMap] at member
  rcases member with
    (⟨_, _, ofId | ofStart⟩ | ⟨_, _, ofId | ⟨_, _, ofListed⟩⟩) | ⟨_, _, (ofId | ofOwner) | ⟨_, _, ofNext⟩⟩
  all_goals exact found ‹_›

/-- All that can be found about the keys of a tree. -/
theorem exists_of_mem_driftedKeys
    {tree : Tree}
    {finding : Finding}
    (member : finding ∈ driftedKeys tree) :
    ∃ entity key storedId, finding = ⟨entity, key, .driftedKey storedId, .error⟩ := by
  have found {entity : Kind} {key storedId : String} (member : finding ∈ drifted? entity key storedId) :
      ∃ entity key storedId, finding = ⟨entity, key, .driftedKey storedId, .error⟩ := by
    unfold drifted? at member
    split at member
    · contradiction
    · exact ⟨entity, key, storedId, List.mem_singleton.mp member⟩
  simp only [driftedKeys, List.mem_append, List.mem_flatMap] at member
  rcases member with (⟨_, _, ofScene⟩ | ⟨_, _, ofDialogue⟩) | ⟨_, _, ofAction⟩
  all_goals exact found ‹_›

theorem isFault_of_mem_ownerFindings
    {tree : Tree}
    {action : Action}
    {finding : Finding}
    (member : finding ∈ ownerFindings tree action) :
    finding.IsFault := by
  unfold ownerFindings at member
  split at member
  · obtain rfl := List.mem_singleton.mp member
    exact ⟨rfl, by simp [faultCategories, Matter.category]⟩
  · exact isFault_of_mem_unless ⟨rfl, by simp [faultCategories, Matter.category]⟩ member

theorem isFault_of_mem_nextFindings
    {tree : Tree}
    {action : Action}
    {finding : Finding}
    (member : finding ∈ nextFindings tree action) :
    finding.IsFault := by
  unfold nextFindings at member
  split at member
  · contradiction
  · exact isFault_of_mem_unless ⟨rfl, by simp [faultCategories, Matter.category]⟩ member

theorem isFault_of_mem_startFindings
    {tree : Tree}
    {scene : Scene}
    {finding : Finding}
    (member : finding ∈ startFindings tree scene) :
    finding.IsFault :=
  isFault_of_mem_unless ⟨rfl, by simp [faultCategories, Matter.category]⟩ member

theorem isFault_of_mem_listedFindings
    {tree : Tree}
    {dialogue : Dialogue}
    {action : String}
    {finding : Finding}
    (member : finding ∈ listedFindings tree dialogue action) :
    finding.IsFault := by
  unfold listedFindings at member
  split at member
  · obtain rfl := List.mem_singleton.mp member
    exact ⟨rfl, by simp [faultCategories, Matter.category]⟩
  · exact isFault_of_mem_unless ⟨rfl, by simp [faultCategories, Matter.category]⟩ member

/-- Every fault is an error about an identifier or a reference. -/
theorem isFault_of_mem_faults
    {tree : Tree}
    {finding : Finding}
    (member : finding ∈ faults tree) :
    finding.IsFault := by
  rcases List.mem_append.mp member with ofIdentifier | ofReference
  · rcases List.mem_append.mp ofIdentifier with illegal | drifted
    · obtain ⟨_, _, _, _, rfl⟩ := exists_of_mem_illegalIdentifiers illegal
      exact ⟨rfl, by simp [faultCategories, Matter.category]⟩
    · obtain ⟨_, _, _, rfl⟩ := exists_of_mem_driftedKeys drifted
      exact ⟨rfl, by simp [faultCategories, Matter.category]⟩
  · simp only [referenceFindings, List.mem_append, List.mem_flatMap] at ofReference
    rcases ofReference with (⟨_, _, ofOwner | ofNext⟩ | ⟨_, _, ofStart⟩) | ⟨_, _, _, _, ofListed⟩
    · exact isFault_of_mem_ownerFindings ofOwner
    · exact isFault_of_mem_nextFindings ofNext
    · exact isFault_of_mem_startFindings ofStart
    · exact isFault_of_mem_listedFindings ofListed

/-! ## The three lists -/

theorem orphanFindings_eq
    (rules : Rules)
    (tree : Tree) :
    orphanFindings rules tree (reachedDialogues rules tree) = orphans rules tree := by
  unfold orphanFindings orphans
  congr 2
  funext key
  unfold standing classify
  by_cases reached : key ∈ reachedDialogues rules tree
  · by_cases looping : key ∈ loopingDialogues tree (reachedDialogues rules tree) <;> simp [reached, looping]
  · simp [reached]

/-- Of a list whose elements all have one feature, a filter by that feature keeps everything or nothing. -/
theorem filter_eq_ite
    {α β : Type}
    [DecidableEq β]
    {elements : List α}
    {feature : α → β}
    {common : β}
    (same : ∀ element ∈ elements, feature element = common)
    (wanted : β) :
    elements.filter (fun element => feature element = wanted) = if common = wanted then elements else [] := by
  split
  · rename_i equal
    apply List.filter_eq_self.mpr
    intro element member
    rw [same element member, equal, decide_eq_true_eq]
  · rename_i different
    apply List.filter_eq_nil_iff.mpr
    intro element member
    rwa [same element member, decide_eq_true_eq]

/-- A list in which every element has at most one wanted part keeps those of the elements that have one. -/
theorem filter_flatMap_eq_map_filter
    {α β : Type}
    {parts : α → List β}
    {wanted : β → Bool}
    {has : α → Bool}
    {part : α → β}
    (single : ∀ element, (parts element).filter wanted = if has element then [part element] else [])
    (elements : List α) :
    (elements.flatMap parts).filter wanted = (elements.filter has).map part := by
  induction elements with
  | nil => rfl
  | cons first rest inductionHypothesis =>
      rw [List.flatMap_cons, List.filter_append, single, inductionHypothesis, List.filter_cons]
      split <;> rfl

theorem map_filter_keys
    {α β : Type}
    (table : Table α)
    (wanted : String → Bool)
    (part : String → β) :
    (table.keys.filter wanted).map part =
      (table.entries.filter fun entry => wanted entry.1).map fun entry => part entry.1 := by
  rw [Table.keys, List.filter_map, List.map_map]
  rfl

/-- What the check says about the dialogues that can be reached. -/
def standingList (rules : Rules) (tree : Tree) : List Finding :=
  tree.dialogues.entries.flatMap fun (key, dialogue) => standingFindings key dialogue (standing rules tree key)

theorem severity_ne_error_of_mem_standingFindings
    {key : String}
    {dialogue : Dialogue}
    {given : Reachability}
    {finding : Finding}
    (member : finding ∈ standingFindings key dialogue given) :
    finding.severity ≠ .error := by
  unfold standingFindings at member
  split at member
  · contradiction
  · rcases List.mem_append.mp member with isDeadEnd | isLoop
    · split at isDeadEnd
      · obtain rfl := List.mem_singleton.mp isDeadEnd
        exact nofun
      · contradiction
    · split at isLoop
      · obtain rfl := List.mem_singleton.mp isLoop
        exact nofun
      · contradiction

theorem errors_standingList
    (rules : Rules)
    (tree : Tree) :
    (standingList rules tree).filter (·.severity = .error) = [] := by
  rw [List.filter_eq_nil_iff]
  intro finding member
  obtain ⟨entry, _, ofEntry⟩ := List.mem_flatMap.mp member
  rw [decide_eq_true_eq]
  exact severity_ne_error_of_mem_standingFindings ofEntry

theorem warnings_standingList
    (rules : Rules)
    (tree : Tree) :
    (standingList rules tree).filter (·.severity = .warning) = deadEnds rules tree := by
  refine filter_flatMap_eq_map_filter ?_ _
  rintro ⟨key, dialogue⟩
  cases class_eq : standing rules tree key <;> by_cases none : dialogue.actions = [] <;>
    simp [standingFindings, class_eq, none]

theorem notes_standingList
    (rules : Rules)
    (tree : Tree) :
    (standingList rules tree).filter (·.severity = .info) = loops rules tree := by
  rw [loops, map_filter_keys]
  refine filter_flatMap_eq_map_filter ?_ _
  rintro ⟨key, dialogue⟩
  cases class_eq : standing rules tree key <;> by_cases none : dialogue.actions = [] <;>
    simp [standingFindings, class_eq, none]

/-- The findings of a severity are the faults, orphans, and findings on reached dialogues that have it. -/
theorem filter_findings
    (rules : Rules)
    (tree : Tree)
    (severity : Severity) :
    (findings rules tree (reachedDialogues rules tree)
        (loopingDialogues tree (reachedDialogues rules tree))).filter (·.severity = severity) =
      (if .error = severity then faults tree else []) ++
        (if rules.orphanPolicy.severity = severity then orphans rules tree else []) ++
          (standingList rules tree).filter (·.severity = severity) := by
  have faultPart : (faults tree).filter (·.severity = severity) = if .error = severity then faults tree else [] :=
    filter_eq_ite (fun _ member => (isFault_of_mem_faults member).1) severity
  have orphanPart : (orphans rules tree).filter (·.severity = severity) =
      if rules.orphanPolicy.severity = severity then orphans rules tree else [] := by
    refine filter_eq_ite (fun finding member => ?_) severity
    obtain ⟨key, _, rfl⟩ := List.mem_map.mp member
    rfl
  rw [← faultPart, ← orphanPart, ← orphanFindings_eq, ← List.filter_append, ← List.filter_append]
  rfl

theorem errors_check
    (rules : Rules)
    (tree : Tree) :
    (check rules tree).errors =
      faults tree ++ if rules.orphanPolicy = .error then orphans rules tree else [] := by
  refine (filter_findings rules tree .error).trans ?_
  rw [errors_standingList, List.append_nil, if_pos rfl]
  cases rules.orphanPolicy <;> rfl

theorem warnings_check
    (rules : Rules)
    (tree : Tree) :
    (check rules tree).warnings =
      (if rules.orphanPolicy = .warn then orphans rules tree else []) ++ deadEnds rules tree := by
  refine (filter_findings rules tree .warning).trans ?_
  rw [warnings_standingList]
  cases rules.orphanPolicy <;> rfl

theorem notes_check
    (rules : Rules)
    (tree : Tree) :
    (check rules tree).notes = loops rules tree := by
  refine (filter_findings rules tree .info).trans ?_
  rw [notes_standingList]
  cases rules.orphanPolicy <;> rfl

end Integrity
end Parley
