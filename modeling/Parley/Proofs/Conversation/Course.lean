import Mathlib
import Parley.Conversation
import Parley.Proofs.InPlace
import Parley.Proofs.Integrity.WellFormed

/-!
# The course of a conversation

A conversation is told to choose and to restart, in any order and any number of times.  In a certified tree it stays in
its scene, and is always at a dialogue of the tree or over.
-/

namespace Parley

open Integrity (ValidTree)

/-! ## What a choice does -/

/-- The action that a choice means among the actions on offer. -/
def Choice.pick?
    (offered : List Action) : Choice → Option Action
  | .named action => offered.find? (·.id == action)
  | .nth index => offered[index]?

theorem Choice.mem_of_pick?
    {offered : List Action}
    {choice : Choice}
    {action : Action}
    (picked : choice.pick? offered = some action) :
    action ∈ offered := by
  cases choice with
  | named id => exact List.mem_of_find?_eq_some picked
  | nth index => exact List.mem_of_getElem? picked

/-- Every action on offer can be chosen by its place in the list. -/
theorem Choice.exists_pick?
    {offered : List Action}
    {action : Action}
    (member : action ∈ offered) :
    ∃ choice : Choice, choice.pick? offered = some action := by
  obtain ⟨index, found⟩ := List.mem_iff_getElem?.mp member
  exact ⟨.nth index, found⟩

/-- The step that an action makes. -/
def Next.step : Next → Step
  | .dialogue id => .moved id
  | .finish => .finished

/-- Where a conversation is after a step. -/
def Step.place : Step → Place
  | .moved dialogue => .dialogue dialogue
  | .finished => .finished

theorem Next.step_eq_moved_iff
    {next : Next}
    {id : String} :
    next.step = .moved id ↔ next = .dialogue id := by
  cases next with
  | dialogue _ => simp [Next.step]
  | finish => simp [Next.step]

namespace Conversation

open InPlace (AllOrNothing NeverFails onlyReads_get onlyReads_ofExcept)

variable {valid : ValidTree} {conversation next : Conversation} {choice : Choice} {step : Step}

/-- The step that an action makes, and the conversation at the place that it leads to. -/
def led
    (conversation : Conversation)
    (action : Action) : Step × Conversation :=
  (action.next.step, { conversation with place := action.next.step.place })

namespace Turn

/-- Following an action cannot fail, and writes nothing but the place that the action leads to. -/
theorem follow_apply
    (action : Action)
    (conversation : Conversation) :
    follow action conversation = .ok (conversation.led action).1 (conversation.led action).2 := by
  unfold follow led
  cases action.next with
  | dialogue id => rfl
  | finish => rfl

theorem neverFails_follow
    (action : Action) :
    NeverFails (follow action) := fun conversation => ⟨_, _, follow_apply action conversation⟩

/-- An action is looked for before anything is written. -/
theorem allOrNothing_pursue
    (find : Conversation → Except PlayError Action) :
    AllOrNothing (pursue find) := by
  refine onlyReads_get.bind fun conversation => ?_
  refine (onlyReads_ofExcept (find conversation)).bind fun chosen => ?_
  exact (neverFails_follow chosen).allOrNothing

theorem allOrNothing_take
    (valid : ValidTree)
    (choice : Choice) :
    AllOrNothing (take valid choice) := by
  cases choice with
  | named action => exact allOrNothing_pursue _
  | nth index => exact allOrNothing_pursue _

theorem outcome_pursue
    (find : Conversation → Except PlayError Action)
    (conversation : Conversation) :
    InPlace.outcome (pursue find) conversation = (find conversation).map conversation.led := by
  rw [pursue, InPlace.outcome_get_bind, InPlace.outcome_ofExcept_bind]
  cases find conversation with
  | error error => rfl
  | ok action =>
      change InPlace.outcome (follow action) conversation = _
      rw [InPlace.outcome, follow_apply]
      rfl

end Turn

theorem choose_eq
    (valid : ValidTree)
    (conversation : Conversation)
    (action : String) :
    conversation.choose valid action = (conversation.named valid action).map conversation.led :=
  Turn.outcome_pursue (named valid · action) conversation

theorem chooseNth_eq
    (valid : ValidTree)
    (conversation : Conversation)
    (index : Nat) :
    conversation.chooseNth valid index = (conversation.nth valid index).map conversation.led :=
  Turn.outcome_pursue (nth valid · index) conversation

theorem outcome_take
    (valid : ValidTree)
    (conversation : Conversation)
    (choice : Choice) :
    InPlace.outcome (Turn.take valid choice) conversation = conversation.take valid choice := by
  cases choice with
  | named action => rfl
  | nth index => rfl

theorem dialogueId?_eq_some_iff
    {id : String} :
    conversation.dialogueId? = some id ↔ conversation.place = .dialogue id := by
  unfold dialogueId?
  cases conversation.place with
  | dialogue _ => simp
  | finished => simp

theorem active?_of_dialogue
    {id : String}
    (place : conversation.place = .dialogue id) :
    conversation.active? valid = valid.tree.dialogues.get? id := by
  rw [active?, dialogueId?, place, Option.bind_some]

theorem active?_of_finished
    (place : conversation.place = .finished) :
    conversation.active? valid = none := by
  rw [active?, dialogueId?, place, Option.bind_none]

theorem take_of_active?_eq_none
    (ended : conversation.active? valid = none)
    (choice : Choice) :
    conversation.take valid choice = .error .finished := by
  cases choice with
  | named action => simp [take, choose_eq, named, ended, Except.map]
  | nth index => simp [take, chooseNth_eq, nth, ended, Except.map]

theorem take_of_pick?_eq_some
    {dialogue : Dialogue}
    {action : Action}
    (active : conversation.active? valid = some dialogue)
    (picked : choice.pick? (offers valid dialogue) = some action) :
    conversation.take valid choice =
      .ok (action.next.step, { conversation with place := action.next.step.place }) := by
  cases choice with
  | named id =>
      have found : (offers valid dialogue).find? (·.id == id) = some action := picked
      simp [take, choose_eq, named, active, found, Except.map, led]
  | nth index =>
      have found : (offers valid dialogue)[index]? = some action := picked
      simp [take, chooseNth_eq, nth, active, found, Except.map, led]

theorem take_of_pick?_eq_none
    {dialogue : Dialogue}
    (active : conversation.active? valid = some dialogue)
    (missed : choice.pick? (offers valid dialogue) = none) :
    ∃ error, conversation.take valid choice = .error error := by
  cases choice with
  | named id =>
      have missing : (offers valid dialogue).find? (·.id == id) = none := missed
      exact ⟨.notOffered id dialogue.id, by simp [take, choose_eq, named, active, missing, Except.map]⟩
  | nth index =>
      have missing : (offers valid dialogue)[index]? = none := missed
      exact ⟨.noSuchChoice index dialogue.id (offers valid dialogue).length,
        by simp [take, chooseNth_eq, nth, active, missing, Except.map]⟩

/-- A choice succeeds exactly when it means an action on offer, and then the conversation makes the step of that
action. -/
theorem take_eq_ok_iff :
    conversation.take valid choice = .ok (step, next) ↔
      ∃ dialogue action,
        conversation.active? valid = some dialogue ∧
          choice.pick? (offers valid dialogue) = some action ∧
          action.next.step = step ∧
          { conversation with place := step.place } = next := by
  constructor
  · intro taken
    cases active : conversation.active? valid with
    | none =>
        rw [take_of_active?_eq_none active] at taken
        cases taken
    | some dialogue =>
        cases picked : choice.pick? (offers valid dialogue) with
        | none =>
            obtain ⟨error, failed⟩ := take_of_pick?_eq_none active picked
            rw [failed] at taken
            cases taken
        | some action =>
            rw [take_of_pick?_eq_some active picked] at taken
            cases taken
            exact ⟨dialogue, action, rfl, picked, rfl, rfl⟩
  · rintro ⟨dialogue, action, active, picked, rfl, rfl⟩
    exact take_of_pick?_eq_some active picked

theorem eq_of_take
    (taken : conversation.take valid choice = .ok (step, next)) :
    next = { conversation with place := step.place } := by
  obtain ⟨_, _, _, _, _, moved⟩ := take_eq_ok_iff.mp taken
  exact moved.symm

/-- A choice leads to a dialogue of the tree, if it leads to one at all. -/
theorem mem_keys_of_take
    {dialogue : String}
    (taken : conversation.take valid choice = .ok (.moved dialogue, next)) :
    dialogue ∈ valid.tree.dialogues.keys := by
  obtain ⟨_, action, _, picked, stepEq, _⟩ := take_eq_ok_iff.mp taken
  obtain ⟨key, _, found⟩ := List.mem_filterMap.mp (Choice.mem_of_pick? picked)
  exact valid.coherent.next_stored found (Next.step_eq_moved_iff.mp stepEq)

theorem attempt_eq_ok_iff :
    conversation.attempt valid choice = (.ok step, next) ↔ conversation.take valid choice = .ok (step, next) := by
  rw [attempt, InPlace.ending_eq_ok_iff, outcome_take]

/-- A choice that fails changes nothing. -/
theorem eq_of_attempt_eq_error
    {error : PlayError}
    (failed : conversation.attempt valid choice = (.error error, next)) :
    next = conversation :=
  (Turn.allOrNothing_take valid choice).eq_of_ending failed

theorem fst_attempt_eq_error_iff
    {error : PlayError} :
    (conversation.attempt valid choice).1 = .error error ↔ conversation.take valid choice = .error error := by
  rw [attempt, InPlace.ending_eq_error_iff, outcome_take]

/-! ## Staying on course -/

/-- A conversation is on course if it is in its scene, and over or at a dialogue of the tree. -/
structure OnCourse
    (valid : ValidTree)
    (scene : String)
    (conversation : Conversation) : Prop where
  scene_stored : ∃ entry, valid.tree.scenes.get? scene = some entry
  scene_eq : conversation.scene = scene
  place_stored : ∀ {dialogue}, conversation.place = .dialogue dialogue → dialogue ∈ valid.tree.dialogues.keys

variable {scene : String}

/-- A scene of a certified tree can be entered at its start. -/
theorem start_of_get?
    {entry : Scene}
    (stored : valid.tree.scenes.get? scene = some entry) :
    start valid scene = .ok ⟨scene, .dialogue entry.start⟩ := by
  rw [start, stored, (valid.coherent.scene_id stored).1]

theorem onCourse_of_start
    (entered : start valid scene = .ok conversation) :
    OnCourse valid scene conversation := by
  cases stored : valid.tree.scenes.get? scene with
  | none => simp [start, stored] at entered
  | some entry =>
      rw [start_of_get? stored] at entered
      cases entered
      constructor
      case scene_stored => exact ⟨entry, stored⟩
      case scene_eq => rfl
      case place_stored =>
        intro dialogue atDialogue
        cases atDialogue
        exact valid.coherent.start_stored stored

theorem OnCourse.take
    (course : OnCourse valid scene conversation)
    (taken : conversation.take valid choice = .ok (step, next)) :
    OnCourse valid scene next := by
  cases eq_of_take taken
  constructor
  case scene_stored => exact course.scene_stored
  case scene_eq => exact course.scene_eq
  case place_stored =>
    intro dialogue atDialogue
    cases step with
    | moved target =>
        cases atDialogue
        exact mem_keys_of_take taken
    | finished => cases atDialogue

/-- Going back to the start is entering the scene anew. -/
theorem OnCourse.start_eq
    (course : OnCourse valid scene conversation) :
    start valid scene = .ok (conversation.restart valid) := by
  obtain ⟨entry, stored⟩ := course.scene_stored
  rw [start_of_get? stored, restart, course.scene_eq, stored]

/-- On course, there is a dialogue to show unless the conversation is over. -/
theorem OnCourse.active?_eq_none_iff
    (course : OnCourse valid scene conversation) :
    conversation.active? valid = none ↔ conversation.place = .finished := by
  cases atPlace : conversation.place with
  | finished => simp [active?_of_finished atPlace]
  | dialogue id =>
      obtain ⟨dialogue, found⟩ := Table.mem_keys_iff.mp (course.place_stored atPlace)
      simp [active?_of_dialogue atPlace, found]

theorem view_eq_finished_iff :
    conversation.view valid = .finished ↔ conversation.active? valid = none := by
  unfold view
  cases conversation.active? valid with
  | none => simp
  | some dialogue => simp

/-! ## Runs -/

/-- What a conversation can be told. -/
inductive Call where
  | choice (choice : Choice)
  | restart

/-- The conversation after it is told something. -/
def after
    (valid : ValidTree)
    (conversation : Conversation) : Call → Conversation
  | .choice choice => (conversation.attempt valid choice).2
  | .restart => conversation.restart valid

/-- The conversation after it is told one thing after the other. -/
def run
    (valid : ValidTree)
    (conversation : Conversation)
    (calls : List Call) : Conversation :=
  calls.foldl (after valid) conversation

theorem OnCourse.attempt
    (course : OnCourse valid scene conversation)
    (choice : Choice) :
    OnCourse valid scene (conversation.attempt valid choice).2 := by
  cases attempted : conversation.attempt valid choice with
  | mk result next =>
      cases result with
      | ok step => exact course.take (attempt_eq_ok_iff.mp attempted)
      | error error =>
          rw [eq_of_attempt_eq_error attempted]
          exact course

theorem OnCourse.after
    (course : OnCourse valid scene conversation)
    (call : Call) :
    OnCourse valid scene (conversation.after valid call) := by
  cases call with
  | choice choice => exact course.attempt choice
  | restart => exact onCourse_of_start course.start_eq

theorem OnCourse.run
    (course : OnCourse valid scene conversation)
    (calls : List Call) :
    OnCourse valid scene (conversation.run valid calls) := by
  induction calls generalizing conversation with
  | nil => exact course
  | cons call rest inductionHypothesis => exact inductionHypothesis (course.after call)

/-- Whatever a conversation in a scene of a certified tree is told, it stays in the scene, and is over or at a dialogue of
the tree, which is what it shows.  A choice that fails changes nothing, one that succeeds leads to where it says, and none
succeeds when the conversation is over.  Restarting is entering the scene anew. -/
theorem run_keeps_course
    (valid : ValidTree)
    (scene : String)
    (stored : scene ∈ valid.tree.scenes.keys)
    (calls : List Call) :
    ∃ entered conversation,
      start valid scene = .ok entered ∧
      entered.run valid calls = conversation ∧
      conversation.scene = scene ∧
      (conversation.place = .finished ∨
        ∃ dialogue ∈ valid.tree.dialogues.keys, conversation.place = .dialogue dialogue) ∧
      (conversation.active? valid = none ↔ conversation.isFinished = true) ∧
      (conversation.view valid = .finished ↔ conversation.isFinished = true) ∧
      (∀ choice result next, conversation.attempt valid choice = (result, next) →
        (∀ error, result = .error error → next = conversation) ∧
        (∀ dialogue, result = .ok (.moved dialogue) →
          next.place = .dialogue dialogue ∧ dialogue ∈ valid.tree.dialogues.keys) ∧
        (result = .ok .finished → next.isFinished = true) ∧
        (conversation.isFinished = true → result = .error .finished)) ∧
      conversation.restart valid = entered := by
  obtain ⟨entry, found⟩ := Table.mem_keys_iff.mp stored
  have entered := start_of_get? found
  have course := (onCourse_of_start entered).run calls
  refine ⟨_, _, entered, rfl, course.scene_eq, ?_, ?_, ?_, ?_, ?_⟩
  · cases atPlace : (run valid ⟨scene, .dialogue entry.start⟩ calls).place with
    | finished => exact .inl rfl
    | dialogue dialogue => exact .inr ⟨dialogue, course.place_stored atPlace, rfl⟩
  · rw [course.active?_eq_none_iff, isFinished, decide_eq_true_eq]
  · rw [view_eq_finished_iff, course.active?_eq_none_iff, isFinished, decide_eq_true_eq]
  · intro choice result next attempted
    refine ⟨?_, ?_, ?_, ?_⟩
    · rintro error rfl
      exact eq_of_attempt_eq_error attempted
    · rintro dialogue rfl
      have taken := attempt_eq_ok_iff.mp attempted
      rw [eq_of_take taken]
      exact ⟨rfl, mem_keys_of_take taken⟩
    · rintro rfl
      rw [eq_of_take (attempt_eq_ok_iff.mp attempted)]
      rfl
    · intro ended
      rw [isFinished, decide_eq_true_eq, ← course.active?_eq_none_iff] at ended
      have failed := fst_attempt_eq_error_iff.mpr (take_of_active?_eq_none ended choice)
      rw [attempted] at failed
      exact failed
  · exact Except.ok.inj (course.start_eq.symm.trans entered)

end Conversation

/-! ## A small tree -/

/-- A scene with one dialogue, which can be heard again or left. -/
def smallTalk : Tree where
  scenes := .ofList [("tavern", { id := "tavern", start := "hello" })]
  dialogues := .ofList [("hello", { id := "hello", text := "Hello?", actions := ["again", "leave"] })]
  actions := .ofList
    [("again", { id := "again", owner := "hello", next := .dialogue "hello" }),
      ("leave", { id := "leave", owner := "hello", next := .finish })]

theorem isOk_check_smallTalk :
    (Integrity.check {} smallTalk).isOk = true := by
  cbv

/-- The small tree, certified. -/
def smallTalkValid : ValidTree :=
  ⟨smallTalk, Integrity.check {} smallTalk, {}, rfl, isOk_check_smallTalk⟩

/-- After a repetition, a choice that is not there, and leaving, the small talk is over and can be begun anew. -/
theorem run_smallTalk :
    "tavern" ∈ smallTalkValid.tree.scenes.keys ∧
      ∃ entered conversation,
        Conversation.start smallTalkValid "tavern" = .ok entered ∧
          entered.run smallTalkValid [.choice (.named "again"), .choice (.nth 2), .choice (.nth 1)] = conversation ∧
          conversation.isFinished = true ∧
          conversation.restart smallTalkValid = entered := by
  have stored : "tavern" ∈ smallTalkValid.tree.scenes.keys := Table.contains_iff.mp rfl
  have begins : Conversation.start smallTalkValid "tavern" = .ok ⟨"tavern", .dialogue "hello"⟩ := rfl
  obtain ⟨entered, conversation, started, ran, _, _, _, _, _, restarted⟩ :=
    Conversation.run_keeps_course smallTalkValid "tavern" stored
      [.choice (.named "again"), .choice (.nth 2), .choice (.nth 1)]
  refine ⟨stored, entered, conversation, started, ran, ?_, restarted⟩
  subst ran
  cases started.symm.trans begins
  rfl

end Parley
