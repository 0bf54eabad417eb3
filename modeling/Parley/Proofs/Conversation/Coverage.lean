import Parley.Proofs.Conversation.Course

/-!
# What conversations come to

The check finds the paths through a tree by looking at it, and a conversation finds them by going.  Without shared
dialogues the two agree: a dialogue can be reached exactly when some conversation comes to it, and lies on a cycle exactly
when a conversation that came to it can come to it again.
-/

namespace Parley

open Integrity (CanReach CanReturn HasStanding Reachability Rules ValidTree validate validate_eq_ok_iff)

namespace Conversation

variable {valid : ValidTree} {conversation next last : Conversation} {choice : Choice} {choices : List Choice}
  {source target : String}

/-- A list of choices, each of which succeeds, takes one conversation to another. -/
inductive Plays (valid : ValidTree) : Conversation → List Choice → Conversation → Prop where
  | nil {conversation : Conversation} : Plays valid conversation [] conversation
  | cons {conversation next last : Conversation} {choice : Choice} {choices : List Choice} {step : Step} :
      conversation.take valid choice = .ok (step, next) →
      Plays valid next choices last →
      Plays valid conversation (choice :: choices) last

/-! ## From choices to paths -/

/-- A choice that moves a conversation goes along an action of the tree. -/
theorem leadsTo_of_take
    (place : conversation.place = .dialogue source)
    (taken : conversation.take valid choice = .ok (.moved target, next)) :
    valid.tree.LeadsTo source target := by
  obtain ⟨dialogue, action, active, picked, moves, _⟩ := take_eq_ok_iff.mp taken
  rw [active?_of_dialogue place] at active
  obtain ⟨key, listed, found⟩ := List.mem_filterMap.mp (Choice.mem_of_pick? picked)
  exact ⟨dialogue, key, action, active, listed, found, Next.step_eq_moved_iff.mp moves, mem_keys_of_take taken⟩

/-- No choice succeeds when a conversation is over. -/
theorem Plays.eq_of_finished
    (plays : Plays valid conversation choices last)
    (ended : conversation.place = .finished) :
    choices = [] ∧ last = conversation := by
  cases plays with
  | nil => exact ⟨rfl, rfl⟩
  | cons taken _ =>
      rw [take_of_active?_eq_none (active?_of_finished ended)] at taken
      cases taken

/-- The first of some choices that lead to a dialogue leads to a dialogue. -/
theorem Plays.exists_leadsTo
    {step : Step}
    (place : conversation.place = .dialogue source)
    (taken : conversation.take valid choice = .ok (step, next))
    (plays : Plays valid next choices last)
    (arrives : last.place = .dialogue target) :
    ∃ middle, valid.tree.LeadsTo source middle ∧ next.place = .dialogue middle := by
  cases step with
  | moved middle =>
      refine ⟨middle, leadsTo_of_take place taken, ?_⟩
      rw [eq_of_take taken]
      rfl
  | finished =>
      have ended : next.place = .finished := by
        rw [eq_of_take taken]
        rfl
      rw [(plays.eq_of_finished ended).2, ended] at arrives
      cases arrives

theorem Plays.reflTransGen
    (plays : Plays valid conversation choices last)
    (place : conversation.place = .dialogue source)
    (arrives : last.place = .dialogue target) :
    Relation.ReflTransGen valid.tree.LeadsTo source target := by
  induction plays generalizing source with
  | nil =>
      cases place.symm.trans arrives
      exact .refl
  | cons taken plays inductionHypothesis =>
      obtain ⟨middle, leads, there⟩ := plays.exists_leadsTo place taken arrives
      exact .head leads (inductionHypothesis there arrives)

theorem Plays.transGen
    (plays : Plays valid conversation choices last)
    (nonempty : choices ≠ [])
    (place : conversation.place = .dialogue source)
    (arrives : last.place = .dialogue target) :
    Relation.TransGen valid.tree.LeadsTo source target := by
  cases plays with
  | nil => exact absurd rfl nonempty
  | cons taken plays =>
      obtain ⟨middle, leads, there⟩ := plays.exists_leadsTo place taken arrives
      exact .head' leads (plays.reflTransGen there arrives)

/-! ## From paths to choices -/

/-- An action of the tree can be chosen in every conversation that is where it starts. -/
theorem exists_take_of_leadsTo
    (scene : String)
    (leads : valid.tree.LeadsTo source target) :
    ∃ choice, take valid ⟨scene, .dialogue source⟩ choice = .ok (.moved target, ⟨scene, .dialogue target⟩) := by
  obtain ⟨dialogue, key, action, stored, listed, found, moves, _⟩ := leads
  have member : action ∈ offers valid dialogue := List.mem_filterMap.mpr ⟨key, listed, found⟩
  obtain ⟨choice, picked⟩ := Choice.exists_pick? member
  have active : active? valid ⟨scene, .dialogue source⟩ = some dialogue := (active?_of_dialogue rfl).trans stored
  exact ⟨choice, take_eq_ok_iff.mpr ⟨dialogue, action, active, picked, Next.step_eq_moved_iff.mpr moves, rfl⟩⟩

theorem exists_plays_of_reflTransGen
    (scene : String)
    (path : Relation.ReflTransGen valid.tree.LeadsTo source target) :
    ∃ choices, Plays valid ⟨scene, .dialogue source⟩ choices ⟨scene, .dialogue target⟩ := by
  induction path using Relation.ReflTransGen.head_induction_on with
  | refl => exact ⟨[], .nil⟩
  | head leads _ inductionHypothesis =>
      obtain ⟨choice, taken⟩ := exists_take_of_leadsTo scene leads
      obtain ⟨choices, plays⟩ := inductionHypothesis
      exact ⟨choice :: choices, .cons taken plays⟩

theorem exists_plays_of_transGen
    (scene : String)
    (path : Relation.TransGen valid.tree.LeadsTo source target) :
    ∃ choices, choices ≠ [] ∧ Plays valid ⟨scene, .dialogue source⟩ choices ⟨scene, .dialogue target⟩ := by
  obtain ⟨middle, leads, path⟩ := Relation.TransGen.head'_iff.mp path
  obtain ⟨choice, taken⟩ := exists_take_of_leadsTo scene leads
  obtain ⟨choices, plays⟩ := exists_plays_of_reflTransGen scene path
  exact ⟨choice :: choices, List.cons_ne_nil _ _, .cons taken plays⟩

/-! ## Agreement -/

/-- Choices lead from the start of a scene to a dialogue, where the conversation then is. -/
def ComesTo
    (valid : ValidTree)
    (dialogue : String)
    (conversation : Conversation) : Prop :=
  ∃ scene entered choices,
    start valid scene = .ok entered ∧ Plays valid entered choices conversation ∧
      conversation.dialogueId? = some dialogue

theorem ComesTo.dialogueId?_eq
    {dialogue : String}
    (came : ComesTo valid dialogue conversation) :
    conversation.dialogueId? = some dialogue := by
  obtain ⟨_, _, _, _, _, there⟩ := came
  exact there

theorem exists_of_start
    {scene : String}
    (entered : start valid scene = .ok conversation) :
    ∃ entry, valid.tree.scenes.get? scene = some entry ∧ conversation.place = .dialogue entry.start := by
  cases stored : valid.tree.scenes.get? scene with
  | none => simp [start, stored] at entered
  | some entry =>
      rw [start_of_get? stored] at entered
      cases entered
      exact ⟨entry, rfl, rfl⟩

/-- Under any rules, a path from the start of a scene is one from a root of the check. -/
theorem canReach_of_scene
    {rules : Rules}
    {scene dialogue : String}
    {entry : Scene}
    (stored : valid.tree.scenes.get? scene = some entry)
    (path : Relation.ReflTransGen valid.tree.LeadsTo entry.start dialogue) :
    CanReach rules valid.tree dialogue := by
  have member := Table.mem_values_iff.mpr ⟨scene, stored⟩
  exact ⟨entry.start, ⟨valid.coherent.start_stored stored, .inl ⟨entry, member, rfl⟩⟩, path⟩

/-- Without shared dialogues, the roots of the check are the starts of scenes. -/
theorem canReach_iff
    {rules : Rules}
    {dialogue : String}
    (noneShared : rules.sharedDialogues = Table.empty) :
    CanReach rules valid.tree dialogue ↔
      ∃ scene entry, valid.tree.scenes.get? scene = some entry ∧
        Relation.ReflTransGen valid.tree.LeadsTo entry.start dialogue := by
  constructor
  · rintro ⟨root, ⟨_, ⟨entry, member, rfl⟩ | shared⟩, path⟩
    · obtain ⟨scene, stored⟩ := Table.mem_values_iff.mp member
      exact ⟨scene, entry, stored, path⟩
    · rw [noneShared] at shared
      cases shared
  · rintro ⟨scene, entry, stored, path⟩
    exact canReach_of_scene stored path

/-- A conversation comes to a dialogue exactly when a path from a scene does. -/
theorem exists_comesTo_iff
    {dialogue : String} :
    (∃ conversation, ComesTo valid dialogue conversation) ↔
      ∃ scene entry, valid.tree.scenes.get? scene = some entry ∧
        Relation.ReflTransGen valid.tree.LeadsTo entry.start dialogue := by
  constructor
  · rintro ⟨conversation, scene, entered, choices, started, plays, arrives⟩
    obtain ⟨entry, stored, place⟩ := exists_of_start started
    exact ⟨scene, entry, stored, plays.reflTransGen place (dialogueId?_eq_some_iff.mp arrives)⟩
  · rintro ⟨scene, entry, stored, path⟩
    obtain ⟨choices, plays⟩ := exists_plays_of_reflTransGen scene path
    exact ⟨⟨scene, .dialogue dialogue⟩, scene, _, choices, start_of_get? stored, plays, rfl⟩

/-- Wherever a conversation is, it can come there again exactly when a path leads back. -/
theorem exists_plays_back_iff
    {dialogue : String}
    (there : conversation.dialogueId? = some dialogue) :
    (∃ choices again, choices ≠ [] ∧ Plays valid conversation choices again ∧
        again.dialogueId? = some dialogue) ↔
      CanReturn valid.tree dialogue := by
  have place := dialogueId?_eq_some_iff.mp there
  constructor
  · rintro ⟨choices, again, nonempty, plays, arrives⟩
    exact plays.transGen nonempty place (dialogueId?_eq_some_iff.mp arrives)
  · intro path
    obtain ⟨scene, _⟩ := conversation
    cases place
    obtain ⟨choices, nonempty, plays⟩ := exists_plays_of_transGen scene path
    exact ⟨choices, ⟨scene, .dialogue dialogue⟩, nonempty, plays, rfl⟩

/-- In a tree that is certified without shared dialogues, a dialogue is not unreachable exactly when a conversation comes
to it, and cyclic exactly when a conversation that came to it can come to it again. -/
theorem reachability_iff_comesTo
    {rules : Rules}
    {tree : Tree}
    {dialogue : String}
    (noneShared : rules.sharedDialogues = Table.empty)
    (accepted : validate rules tree = .ok valid)
    (stored : dialogue ∈ tree.dialogues.keys) :
    ((∃ given, valid.reachability? dialogue = some given ∧ given ≠ .unreachable) ↔
      ∃ conversation, ComesTo valid dialogue conversation) ∧
    (valid.reachability? dialogue = some .cyclic ↔
      ∃ conversation, ComesTo valid dialogue conversation ∧
        ∃ choices again, choices ≠ [] ∧ Plays valid conversation choices again ∧
          again.dialogueId? = some dialogue) := by
  obtain ⟨_, rfl, sameFindings⟩ := validate_eq_ok_iff.mp accepted
  have comes : CanReach rules valid.tree dialogue ↔ ∃ conversation, ComesTo valid dialogue conversation :=
    (canReach_iff noneShared).trans exists_comesTo_iff.symm
  have given_iff (given : Reachability) :
      valid.reachability? dialogue = some given ↔ HasStanding rules valid.tree dialogue given := by
    rw [ValidTree.reachability?, sameFindings, Integrity.reachability_check_eq_some_iff]
    exact and_iff_right stored
  constructor
  · rw [← comes, ← Integrity.exists_hasStanding_iff]
    exact exists_congr fun given => and_congr_left fun _ => given_iff given
  · rw [given_iff]
    constructor
    · rintro ⟨reach, back⟩
      obtain ⟨conversation, came⟩ := comes.mp reach
      exact ⟨conversation, came, (exists_plays_back_iff came.dialogueId?_eq).mpr back⟩
    · rintro ⟨conversation, came, again⟩
      exact ⟨comes.mpr ⟨conversation, came⟩, (exists_plays_back_iff came.dialogueId?_eq).mp again⟩

/-- The small talk can be begun, and gone through again. -/
theorem comesTo_smallTalk :
    validate {} smallTalk = .ok smallTalkValid ∧
      "hello" ∈ smallTalk.dialogues.keys ∧
      ∃ conversation, ComesTo smallTalkValid "hello" conversation ∧
        ∃ choices again, choices ≠ [] ∧ Plays smallTalkValid conversation choices again ∧
          again.dialogueId? = some "hello" := by
  have accepted : validate {} smallTalk = .ok smallTalkValid :=
    validate_eq_ok_iff.mpr ⟨Integrity.isOk_check_iff.mp isOk_check_smallTalk, rfl, rfl⟩
  have stored : "hello" ∈ smallTalk.dialogues.keys := Table.contains_iff.mp (by cbv)
  have cyclic : smallTalkValid.reachability? "hello" = some .cyclic := by cbv
  exact ⟨accepted, stored, (reachability_iff_comesTo rfl accepted stored).2.mp cyclic⟩

end Conversation
end Parley
