import Mathlib
import Parley.Proofs.Conversation.Course
import Parley.Proofs.Integrity.Bare

/-!
# Conversations do not look at contexts

All that a conversation takes from its tree is on its stage: the dialogue that it is at and the actions on offer, both
without developer data.  So certified trees that are equal but for their contexts are played in the same way.
-/

namespace Parley

open Integrity (ValidTree)

/-- Why a choice is refused that means none of the actions on offer. -/
def Choice.refusal
    (dialogue : Dialogue)
    (offered : List Action) : Choice → PlayError
  | .named action => .notOffered action dialogue.id
  | .nth index => .noSuchChoice index dialogue.id offered.length

theorem Choice.pick?_map_bare
    (offered : List Action)
    (choice : Choice) :
    choice.pick? (offered.map Action.bare) = (choice.pick? offered).map Action.bare := by
  cases choice with
  | named action => exact List.find?_map
  | nth index => exact List.getElem?_map

namespace Conversation

variable {valid left right : ValidTree} {conversation : Conversation}

/-! ## The stage -/

/-- The dialogue that a conversation is at, and the actions on offer, without developer data. -/
def stage
    (valid : ValidTree)
    (conversation : Conversation) : Option (Dialogue × List Action) :=
  (conversation.active? valid).map fun dialogue => (dialogue.bare, (offers valid dialogue).map Action.bare)

theorem offered_eq
    (valid : ValidTree)
    (conversation : Conversation) :
    conversation.offered valid = ((conversation.stage valid).map fun (_, actions) => actions.map Action.id).getD [] := by
  rw [offered, stage]
  cases conversation.active? valid with
  | none => rfl
  | some dialogue => simp

theorem view_eq
    (valid : ValidTree)
    (conversation : Conversation) :
    conversation.view valid =
      ((conversation.stage valid).map fun (dialogue, actions) =>
        View.speaking dialogue.text (actions.map Action.text)).getD .finished := by
  rw [view, stage]
  cases conversation.active? valid with
  | none => rfl
  | some dialogue => simp

theorem take_eq
    (valid : ValidTree)
    (conversation : Conversation)
    (choice : Choice) :
    conversation.take valid choice =
      match conversation.stage valid with
      | none => .error .finished
      | some (dialogue, actions) =>
        match choice.pick? actions with
        | some action => .ok (conversation.led action)
        | none => .error (choice.refusal dialogue actions) := by
  cases active : conversation.active? valid with
  | none => rw [take_of_active?_eq_none active, stage, active, Option.map_none]
  | some dialogue =>
      simp only [stage, active, Option.map_some, Choice.pick?_map_bare]
      cases picked : choice.pick? (offers valid dialogue) with
      | some action =>
          rw [take_of_pick?_eq_some active picked]
          simp only [Option.map_some, led, Action.next_bare]
      | none =>
          cases choice with
          | named id =>
              have missing : (offers valid dialogue).find? (·.id == id) = none := picked
              simp [take, choose_eq, named, active, missing, Except.map, Choice.refusal]
          | nth index =>
              have missing : (offers valid dialogue)[index]? = none := picked
              simp [take, chooseNth_eq, nth, active, missing, Except.map, Choice.refusal]

/-- What is on stage is told by the tree without its contexts. -/
theorem stage_eq_of_bare_eq
    (alike : left.tree.bare = right.tree.bare)
    (conversation : Conversation) :
    conversation.stage left = conversation.stage right := by
  have offered (valid : ValidTree) (dialogue : Dialogue) :
      (offers valid dialogue).map Action.bare = dialogue.bare.actions.filterMap valid.tree.bare.actions.get? := by
    rw [offers, List.map_filterMap, Dialogue.actions_bare]
    congr 1
    funext action
    exact (valid.tree.actions_get?_bare action).symm
  have told (valid : ValidTree) : conversation.stage valid =
      (conversation.dialogueId?.bind valid.tree.bare.dialogues.get?).map fun dialogue =>
        (dialogue, dialogue.actions.filterMap valid.tree.bare.actions.get?) := by
    rw [stage, active?]
    cases conversation.dialogueId? with
    | none => rfl
    | some id =>
        rw [Option.bind_some, Option.bind_some, Tree.dialogues_get?_bare, Option.map_map]
        congr 1
        funext dialogue
        exact congrArg (Prod.mk dialogue.bare) (offered valid dialogue)
  rw [told, told, alike]

/-! ## Playing -/

theorem start_eq_of_bare_eq
    (alike : left.tree.bare = right.tree.bare)
    (scene : String) :
    start left scene = start right scene := by
  have told (valid : ValidTree) : start valid scene =
      (valid.tree.bare.scenes.get? scene).elim (.error (.unknownScene scene))
        fun entry => .ok ⟨entry.id, .dialogue entry.start⟩ := by
    rw [start, Tree.scenes_get?_bare]
    cases valid.tree.scenes.get? scene <;> rfl
  rw [told, told, alike]

theorem restart_eq_of_bare_eq
    (alike : left.tree.bare = right.tree.bare)
    (conversation : Conversation) :
    conversation.restart left = conversation.restart right := by
  have told (valid : ValidTree) : conversation.restart valid =
      (valid.tree.bare.scenes.get? conversation.scene).elim conversation
        fun entry => { conversation with place := .dialogue entry.start } := by
    rw [restart, Tree.scenes_get?_bare]
    cases valid.tree.scenes.get? conversation.scene <;> rfl
  rw [told, told, alike]

theorem attempt_eq_of_bare_eq
    (alike : left.tree.bare = right.tree.bare)
    (conversation : Conversation)
    (choice : Choice) :
    conversation.attempt left choice = conversation.attempt right choice := by
  apply (Turn.allOrNothing_take left choice).ending_congr (Turn.allOrNothing_take right choice)
  rw [outcome_take, outcome_take, take_eq, take_eq, stage_eq_of_bare_eq alike]

/-- What a player can ask for: to enter a scene, to choose, and to restart. -/
inductive Request where
  | start (scene : String)
  | call (call : Call)

/-- What a player gets for a request: what a choice led to or why something was refused, the conversation after it, and
what there is to show and to choose then. -/
structure Response where
  result : Except PlayError (Option Step)
  conversation : Option Conversation
  view : Option View
  offered : List String

/-- What becomes of a request, and the conversation after it.  Nothing does as long as no scene was entered. -/
def answer
    (valid : ValidTree)
    (held : Option Conversation) : Request → Except PlayError (Option Step) × Option Conversation
  | .start scene =>
    match start valid scene with
    | .ok conversation => (.ok none, some conversation)
    | .error error => (.error error, held)
  | .call (.choice choice) =>
    match held with
    | some conversation =>
      let (result, next) := conversation.attempt valid choice
      (result.map some, some next)
    | none => (.ok none, none)
  | .call .restart => (.ok none, held.map (restart valid))

/-- What a player gets for one request after the other. -/
def transcript
    (valid : ValidTree)
    (held : Option Conversation) : List Request → List Response
  | [] => []
  | request :: rest =>
    let (result, next) := answer valid held request
    ⟨result, next, next.map (view valid), (next.map (offered valid)).getD []⟩ :: transcript valid next rest

theorem answer_eq_of_bare_eq
    (alike : left.tree.bare = right.tree.bare)
    (held : Option Conversation)
    (request : Request) :
    answer left held request = answer right held request := by
  cases request with
  | start scene => rw [answer, answer, start_eq_of_bare_eq alike]
  | call call =>
      cases call with
      | choice choice =>
          cases held with
          | none => rfl
          | some conversation => rw [answer, answer, attempt_eq_of_bare_eq alike]
      | restart =>
          rw [answer, answer]
          congr 2
          exact funext (restart_eq_of_bare_eq alike)

/-- Certified trees that are equal but for their contexts give a player the same for all requests. -/
theorem transcript_eq_of_bare_eq
    (alike : left.tree.bare = right.tree.bare)
    (held : Option Conversation)
    (requests : List Request) :
    transcript left held requests = transcript right held requests := by
  have sameView : view left = view right := by
    funext conversation
    rw [view_eq, view_eq, stage_eq_of_bare_eq alike]
  have sameOffered : offered left = offered right := by
    funext conversation
    rw [offered_eq, offered_eq, stage_eq_of_bare_eq alike]
  induction requests generalizing held with
  | nil => rfl
  | cons request rest inductionHypothesis =>
      rw [transcript, transcript, answer_eq_of_bare_eq alike, sameView, sameOffered]
      simp only [inductionHypothesis]

end Conversation
end Parley
