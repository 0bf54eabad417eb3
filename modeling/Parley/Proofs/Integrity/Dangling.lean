import Mathlib
import Parley.Proofs.Integrity.Naming

/-!
# One action that leads nowhere

A certified tree gets one more action, which its owner lists and which leads to a dialogue that does not exist.  The check
finds this one fault and no other: no path goes through the new action, so every dialogue stands as it stood, and all that
can change besides is that the owner is no dead end any more.
-/

namespace Parley

variable {tree : Tree} {action : Action} {dialogue : Dialogue} {key other next : String}

/-! ## One more action in a tree -/

/-- The dialogue under a key, with an action at the end of its list if it is the owner of the action. -/
def Action.listedBy (action : Action) (key : String) (dialogue : Dialogue) : Dialogue :=
  if key = action.owner then dialogue.withAction action.id else dialogue

/-- The tree with one more action, which its owner lists behind the others. -/
def Tree.withListed (tree : Tree) (action : Action) : Tree where
  scenes := tree.scenes
  dialogues := tree.dialogues.mapEntries action.listedBy
  actions := tree.actions.insert action.id action

/-- An action is new to a tree and owned by a dialogue of it, and leads to a dialogue that it does not have. -/
structure Tree.Dangles (tree : Tree) (action : Action) (next : String) : Prop where
  id_legal : Identifier.isLegal action.id
  fresh : action.id ∉ tree.actions.keys
  owned : action.owner ∈ tree.dialogues.keys
  leads : action.next = .dialogue next
  next_legal : Identifier.isLegal next
  missing : next ∉ tree.dialogues.keys

@[simp] theorem Action.id_listedBy :
    (action.listedBy key dialogue).id = dialogue.id := by
  unfold listedBy
  split <;> rfl

theorem Action.mem_actions_listedBy :
    other ∈ (action.listedBy key dialogue).actions ↔
      other ∈ dialogue.actions ∨ key = action.owner ∧ other = action.id := by
  unfold listedBy
  split_ifs with owner
  · simp [Dialogue.withAction, owner]
  · simp [owner]

theorem Action.actions_listedBy_eq_nil_iff :
    (action.listedBy key dialogue).actions = [] ↔ dialogue.actions = [] ∧ key ≠ action.owner := by
  unfold listedBy
  split_ifs with owner
  · simp [Dialogue.withAction, owner]
  · simp [owner]

namespace Tree

@[simp] theorem keys_withListed :
    (tree.withListed action).dialogues.keys = tree.dialogues.keys :=
  Table.keys_mapEntries ..

theorem dialogues_get?_withListed
    (key : String) :
    (tree.withListed action).dialogues.get? key = (tree.dialogues.get? key).map (action.listedBy key) :=
  Table.get?_mapEntries ..

theorem actions_get?_withListed
    (key : String) :
    (tree.withListed action).actions.get? key = if key = action.id then some action else tree.actions.get? key :=
  Table.get?_insert ..

/-- What stands in the tree with the new action stood there before, or is a dialogue that may list it, or is the action
itself. -/
theorem get?_withListed_cases
    {kind : Kind}
    {entity : Entity}
    (found : (tree.withListed action).get? kind key = some entity) :
    tree.get? kind key = some entity ∨
      (∃ dialogue, tree.get? kind key = some (.dialogue dialogue) ∧ entity = .dialogue (action.listedBy key dialogue)) ∨
        key = action.id ∧ entity = .action action := by
  cases kind with
  | scene => exact .inl found
  | dialogue =>
      obtain ⟨_, stored, rfl⟩ := get?_dialogue_eq_some_iff.mp found
      rw [dialogues_get?_withListed] at stored
      obtain ⟨old, foundOld, rfl⟩ := Option.map_eq_some_iff.mp stored
      exact .inr (.inl ⟨old, get?_dialogue_eq_some_iff.mpr ⟨old, foundOld, rfl⟩, rfl⟩)
  | action =>
      obtain ⟨_, stored, rfl⟩ := get?_action_eq_some_iff.mp found
      rw [actions_get?_withListed] at stored
      split_ifs at stored with isNew
      · cases stored
        exact .inr (.inr ⟨isNew, rfl⟩)
      · exact .inl (get?_action_eq_some_iff.mpr ⟨_, stored, rfl⟩)

/-- The new action has its identifiers in order. -/
theorem Dangles.spelled
    (dangles : tree.Dangles action next)
    (named : tree.Named) :
    (Entity.action action).Spelled := by
  obtain ⟨owner, stored⟩ := Table.mem_keys_iff.mp dangles.owned
  have ownerNamed := get?_dialogue_eq_some_iff.mpr ⟨owner, stored, rfl⟩
  have ownerLegal := (Entity.spelled_dialogue_iff.mp (named.spelled ownerNamed)).1
  rw [named.keyed.dialogue_id stored] at ownerLegal
  refine Entity.spelled_action_iff.mpr ⟨dangles.id_legal, ownerLegal, fun follows => ?_⟩
  cases follows.symm.trans dangles.leads
  exact dangles.next_legal

/-- Names stay in order. -/
theorem Named.withListed
    (named : tree.Named)
    (dangles : tree.Dangles action next) :
    (tree.withListed action).Named := by
  constructor
  · intro kind key entity found
    rcases get?_withListed_cases found with before | ⟨dialogue, before, rfl⟩ | ⟨rfl, rfl⟩
    · exact named.id_eq before
    · exact Action.id_listedBy.trans (named.id_eq before)
    · rfl
  · intro kind key entity found
    rcases get?_withListed_cases found with before | ⟨dialogue, before, rfl⟩ | ⟨rfl, rfl⟩
    · exact named.spelled before
    · obtain ⟨idLegal, listedLegal⟩ := Entity.spelled_dialogue_iff.mp (named.spelled before)
      rw [Entity.spelled_dialogue_iff, Action.id_listedBy]
      refine ⟨idLegal, fun listed member => ?_⟩
      rcases Action.mem_actions_listedBy.mp member with inOld | ⟨_, rfl⟩
      · exact listedLegal listed inOld
      · exact dangles.id_legal
    · exact dangles.spelled named

/-- No edge goes through the new action, whatever is wrong with the tree. -/
theorem leadsTo_withListed
    (dangles : tree.Dangles action next) :
    (tree.withListed action).LeadsTo = tree.LeadsTo := by
  funext source target
  apply propext
  constructor
  · rintro ⟨dialogue, listed, stored, found, inList, foundAction, follows, isKey⟩
    rw [keys_withListed] at isKey
    rw [dialogues_get?_withListed] at found
    obtain ⟨old, foundOld, rfl⟩ := Option.map_eq_some_iff.mp found
    rw [actions_get?_withListed] at foundAction
    split_ifs at foundAction with isNew
    · cases foundAction
      cases follows.symm.trans dangles.leads
      exact absurd isKey dangles.missing
    · have inOld := (Action.mem_actions_listedBy.mp inList).resolve_right fun added => isNew added.2
      exact ⟨old, listed, stored, foundOld, inOld, foundAction, follows, isKey⟩
  · rintro ⟨dialogue, listed, stored, found, inList, foundAction, follows, isKey⟩
    have isOld : listed ≠ action.id := by
      rintro rfl
      exact dangles.fresh (Table.mem_keys_iff.mpr ⟨stored, foundAction⟩)
    refine ⟨action.listedBy source dialogue, listed, stored, ?_, Action.mem_actions_listedBy.mpr (.inl inList), ?_,
      follows, ?_⟩
    · rw [dialogues_get?_withListed, found, Option.map_some]
    · rw [actions_get?_withListed, if_neg isOld, foundAction]
    · rwa [keys_withListed]

end Tree

namespace Integrity

variable {rules : Rules}

/-! ## Standing -/

theorem canReach_withListed
    (dangles : tree.Dangles action next) :
    CanReach rules (tree.withListed action) = CanReach rules tree := by
  funext dialogue
  unfold CanReach IsRoot
  rw [Tree.leadsTo_withListed dangles, Tree.keys_withListed]
  rfl

/-- Every dialogue stands as it stood. -/
theorem standing_withListed
    (dangles : tree.Dangles action next) :
    standing rules (tree.withListed action) = standing rules tree := by
  funext dialogue
  have stands : HasStanding rules tree dialogue (standing rules tree dialogue) := standing_eq_iff.mp rfl
  rw [standing_eq_iff]
  unfold HasStanding CanReturn at stands ⊢
  rwa [canReach_withListed dangles, Tree.leadsTo_withListed dangles]

theorem orphans_withListed
    (dangles : tree.Dangles action next) :
    orphans rules (tree.withListed action) = orphans rules tree := by
  rw [orphans, orphans, Tree.keys_withListed, standing_withListed dangles]

theorem loops_withListed
    (dangles : tree.Dangles action next) :
    loops rules (tree.withListed action) = loops rules tree := by
  rw [loops, loops, Tree.keys_withListed, standing_withListed dangles]

/-- The owner is no dead end any more, and all other dead ends are as before. -/
theorem deadEnds_withListed
    (dangles : tree.Dangles action next) :
    deadEnds rules (tree.withListed action) =
      (deadEnds rules tree).filter (· ≠ ⟨.dialogue, action.owner, .deadEnd, .warning⟩) := by
  rw [deadEnds, deadEnds, standing_withListed dangles]
  simp only [Tree.withListed, Table.mapEntries, List.filter_map, List.map_map, List.filter_filter]
  congr 1
  apply List.filter_congr
  rintro ⟨key, dialogue⟩ _
  simp only [Function.comp_apply, Action.actions_listedBy_eq_nil_iff]
  by_cases owner : key = action.owner <;> simp [owner]

/-! ## References -/

/-- Every action is in the list of its owner, also the new one. -/
theorem ownerFindings_withListed
    {stored : Action}
    (coherent : tree.Coherent)
    (dangles : tree.Dangles action next)
    (found : (tree.withListed action).actions.get? key = some stored) :
    ownerFindings (tree.withListed action) stored = [] := by
  rw [ownerFindings_eq_nil_iff, Tree.dialogues_get?_withListed]
  rw [Tree.actions_get?_withListed] at found
  split_ifs at found
  · cases found
    obtain ⟨owner, ownerStored⟩ := Table.mem_keys_iff.mp dangles.owned
    exact ⟨_, by rw [ownerStored, Option.map_some], Action.mem_actions_listedBy.mpr (.inr ⟨rfl, rfl⟩)⟩
  · obtain ⟨owner, ownerStored, inList⟩ := coherent.owner_lists found
    rw [(coherent.action_id found).1] at inList
    exact ⟨_, by rw [ownerStored, Option.map_some], Action.mem_actions_listedBy.mpr (.inl inList)⟩

/-- Dialogues list actions of their own only, also the owner of the new one. -/
theorem listedFindings_withListed
    (coherent : tree.Coherent)
    (dangles : tree.Dangles action next)
    (found : (tree.withListed action).dialogues.get? key = some dialogue)
    (inList : other ∈ dialogue.actions) :
    listedFindings (tree.withListed action) dialogue other = [] := by
  rw [listedFindings_eq_nil_iff, Tree.actions_get?_withListed]
  rw [Tree.dialogues_get?_withListed] at found
  obtain ⟨old, foundOld, rfl⟩ := Option.map_eq_some_iff.mp found
  rw [Action.id_listedBy, ← (coherent.dialogue_id foundOld).1]
  rcases Action.mem_actions_listedBy.mp inList with inOld | ⟨owner, rfl⟩
  · obtain ⟨stored, foundAction, owned⟩ := coherent.listed_owned foundOld other inOld
    have isOld : other ≠ action.id := by
      rintro rfl
      exact dangles.fresh (Table.mem_keys_iff.mpr ⟨stored, foundAction⟩)
    exact ⟨stored, by rw [if_neg isOld, foundAction], owned⟩
  · exact ⟨action, if_pos rfl, owner.symm⟩

/-- Of a list without repetitions, in which only one element counts, what counts is that of this element. -/
theorem flatMap_eq_of_unique
    {α β : Type}
    {elements : List α}
    {element : α}
    {count : α → List β}
    (nodup : elements.Nodup)
    (member : element ∈ elements)
    (others : ∀ another ∈ elements, another ≠ element → count another = []) :
    elements.flatMap count = count element := by
  obtain ⟨front, behind, rfl⟩ := List.append_of_mem member
  obtain ⟨notInFront, notBehind⟩ : element ∉ front ∧ element ∉ behind := by
    simpa using (List.nodup_middle.mp nodup).notMem
  have frontNil : front.flatMap count = [] := List.flatMap_eq_nil_iff.mpr fun another inFront =>
    others another (List.mem_append_left _ inFront) fun same => notInFront (same ▸ inFront)
  have behindNil : behind.flatMap count = [] := List.flatMap_eq_nil_iff.mpr fun another inBehind =>
    others another (List.mem_append_right _ (List.mem_cons_of_mem _ inBehind)) fun same => notBehind (same ▸ inBehind)
  rw [List.flatMap_append, List.flatMap_cons, frontNil, behindNil, List.nil_append, List.append_nil]

/-- The only reference that leads nowhere is that of the new action. -/
theorem referenceFindings_withListed
    (coherent : tree.Coherent)
    (dangles : tree.Dangles action next) :
    referenceFindings (tree.withListed action) = [⟨.action, action.id, .missingNext next, .error⟩] := by
  have ofActions : (tree.withListed action).actions.values.flatMap (fun stored =>
      ownerFindings (tree.withListed action) stored ++ nextFindings (tree.withListed action) stored) =
        [⟨.action, action.id, .missingNext next, .error⟩] := by
    have there : (tree.withListed action).actions.get? action.id = some action := by
      rw [Tree.actions_get?_withListed, if_pos rfl]
    have nowhere : (tree.withListed action).dialogues.contains next = false := by
      rw [← Bool.not_eq_true, Table.contains_iff, Tree.keys_withListed]
      exact dangles.missing
    rw [Table.values, List.flatMap_map,
      flatMap_eq_of_unique (Table.nodup_entries _) (Table.get?_eq_some_iff.mp there) ?_]
    · rw [ownerFindings_withListed coherent dangles there, nextFindings, dangles.leads]
      simp only [nowhere, List.nil_append, Bool.false_eq_true, if_false]
    · rintro ⟨key, stored⟩ member isOther
      have found := Table.get?_eq_some_iff.mpr member
      rw [ownerFindings_withListed coherent dangles found, List.nil_append, nextFindings_eq_nil_iff, Tree.keys_withListed]
      rw [Tree.actions_get?_withListed] at found
      split_ifs at found with isNew
      · cases found
        exact absurd (congrArg (·, action) isNew) isOther
      · exact coherent.next_stored found
  have ofScenes : (tree.withListed action).scenes.values.flatMap (startFindings (tree.withListed action)) = [] := by
    refine List.flatMap_eq_nil_iff.mpr fun scene member => ?_
    obtain ⟨key, found⟩ := Table.mem_values_iff.mp member
    rw [startFindings_eq_nil_iff, Tree.keys_withListed]
    exact coherent.start_stored found
  have ofDialogues : (tree.withListed action).dialogues.values.flatMap (fun dialogue =>
      dialogue.actions.flatMap (listedFindings (tree.withListed action) dialogue)) = [] := by
    refine List.flatMap_eq_nil_iff.mpr fun dialogue member => List.flatMap_eq_nil_iff.mpr fun other inList => ?_
    obtain ⟨key, found⟩ := Table.mem_values_iff.mp member
    exact listedFindings_withListed coherent dangles found inList
  rw [referenceFindings, ofActions, ofScenes, ofDialogues, List.append_nil, List.append_nil]

theorem faults_withListed
    (coherent : tree.Coherent)
    (dangles : tree.Dangles action next) :
    faults (tree.withListed action) = [⟨.action, action.id, .missingNext next, .error⟩] := by
  obtain ⟨noIllegal, noDrifted⟩ := named_iff.mp ((named_of_coherent coherent).withListed dangles)
  rw [faults, noIllegal, noDrifted, referenceFindings_withListed coherent dangles, List.nil_append, List.nil_append]

/-! ## The whole check -/

/-- If one action that leads to a dialogue that does not exist is added to a certified tree, and listed by its owner, the
check finds one error, a dangling reference of this action.  The standing of all dialogues and the notes stay, and so do the
warnings, except that the owner is no dead end any more. -/
theorem check_withListed
    {valid : ValidTree}
    (accepted : validate rules tree = .ok valid)
    (dangles : tree.Dangles action next) :
    (check rules (tree.withListed action)).errors = [⟨.action, action.id, .missingNext next, .error⟩] ∧
      (Matter.missingNext next).category = .danglingReference ∧
      (check rules (tree.withListed action)).reachability = (check rules tree).reachability ∧
      (check rules (tree.withListed action)).notes = (check rules tree).notes ∧
      (check rules (tree.withListed action)).warnings =
        (check rules tree).warnings.filter (· ≠ ⟨.dialogue, action.owner, .deadEnd, .warning⟩) := by
  obtain ⟨⟨coherent, noOrphans⟩, _⟩ := validate_eq_ok_iff.mp accepted
  refine ⟨?_, rfl, ?_, ?_, ?_⟩
  · rw [errors_check, faults_withListed coherent dangles, orphans_withListed dangles]
    split_ifs with strict
    · rw [orphans_eq_nil_iff.mpr (noOrphans strict), List.append_nil]
    · rw [List.append_nil]
  · apply Table.ext_get?
    intro dialogue
    rw [reachability_check_get?, reachability_check_get?, standing_withListed dangles, Tree.dialogues_get?_withListed,
      Option.map_map]
    rfl
  · rw [notes_check, notes_check, loops_withListed dangles]
  · have orphansStay : (orphans rules tree).filter (· ≠ ⟨.dialogue, action.owner, .deadEnd, .warning⟩) =
        orphans rules tree := by
      refine List.filter_eq_self.mpr fun finding member => ?_
      obtain ⟨key, _, rfl⟩ := List.mem_map.mp member
      simp
    rw [warnings_check, warnings_check, orphans_withListed dangles, deadEnds_withListed dangles, List.filter_append]
    split_ifs
    · rw [orphansStay]
    · rfl

/-- A talk at a well, which offers nothing. -/
def wellTalk : Tree where
  scenes := .ofList [("yard", { id := "yard", start := "well" })]
  dialogues := .ofList [("well", { id := "well", text := "It is deep." })]

/-- A way down that nobody has thought out. -/
def wellJump : Action := { id := "jump", owner := "well", next := .dialogue "bottom", text := some "Geronimo!" }

/-- With the jump, the well is no dead end any more, but there is no bottom. -/
theorem check_wellTalk :
    (∃ valid, validate {} wellTalk = .ok valid) ∧
      wellTalk.Dangles wellJump "bottom" ∧
        (check {} wellTalk).warnings = [⟨.dialogue, "well", .deadEnd, .warning⟩] ∧
          (check {} (wellTalk.withListed wellJump)).errors = [⟨.action, "jump", .missingNext "bottom", .error⟩] ∧
            (check {} (wellTalk.withListed wellJump)).warnings = [] := by
  have ok : (check {} wellTalk).isOk = true := by cbv
  have accepted : validate {} wellTalk = .ok ⟨wellTalk, check {} wellTalk, {}, rfl, ok⟩ := dif_pos ok
  have keys : wellTalk.dialogues.keys = ["well"] := rfl
  have dangles : wellTalk.Dangles wellJump "bottom" :=
    { id_legal := by decide
      fresh := List.not_mem_nil
      owned := by rw [keys]; exact List.mem_singleton_self "well"
      leads := rfl
      next_legal := by decide
      missing := by rw [keys]; decide }
  have warned : (check {} wellTalk).warnings = [⟨.dialogue, "well", .deadEnd, .warning⟩] := by cbv
  obtain ⟨errors, _, _, _, warnings⟩ := check_withListed accepted dangles
  refine ⟨⟨_, accepted⟩, dangles, warned, errors, ?_⟩
  rw [warnings, warned]
  rfl

end Integrity
end Parley
