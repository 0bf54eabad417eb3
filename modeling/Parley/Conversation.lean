import Parley.InPlace
import Parley.Integrity.Check

/-!
# Conversations

A conversation goes through a certified tree.  All that it remembers is its scene, and where it is: at a dialogue, or at
its end.  A choice is made in place, and only following an action that is on offer writes where the conversation is.
-/

namespace Parley

open Integrity (ValidTree)

/-- Why a conversation cannot go on as it is told. -/
inductive PlayError where
  | unknownScene (scene : String)
  | notOffered (action dialogue : String)
  | noSuchChoice (index : Nat) (dialogue : String) (offered : Nat)
  | finished
  deriving DecidableEq, Inhabited

/-- The words for why a conversation cannot go on. -/
def PlayError.message : PlayError → String
  | .unknownScene scene => s!"scene '{scene}' not found"
  | .notOffered action dialogue => s!"action '{action}' is not offered by dialogue '{dialogue}'"
  | .noSuchChoice index dialogue offered =>
    s!"choice {index} out of range: dialogue '{dialogue}' offers {offered}"
  | .finished => "scene has finished; no further choices are accepted"

/-- Where a conversation is. -/
inductive Place where
  | dialogue (id : String)
  | finished
  deriving DecidableEq, Inhabited

/-- What a choice led to. -/
inductive Step where
  | moved (dialogue : String)
  | finished
  deriving DecidableEq, Inhabited

/-- A choice names an action on offer, or counts to it from zero. -/
inductive Choice where
  | named (action : String)
  | nth (index : Nat)
  deriving DecidableEq, Inhabited

/-- What there is to show of a conversation. -/
inductive View where
  /-- A line, and the words of the replies; none for a silent continuation. -/
  | speaking (text : String) (labels : List (Option String))
  | finished
  deriving DecidableEq, Inhabited

/-- A conversation: its scene, and where it is. -/
structure Conversation where
  scene : String
  place : Place
  deriving DecidableEq, Inhabited

namespace Conversation

/-- Enter a scene at its start. -/
def start (valid : ValidTree) (scene : String) : Except PlayError Conversation :=
  match valid.tree.scenes.get? scene with
  | some entry => .ok ⟨entry.id, .dialogue entry.start⟩
  | none => .error (.unknownScene scene)

/-- Whether the conversation is over. -/
def isFinished (conversation : Conversation) : Bool := conversation.place = .finished

/-- The identifier of the dialogue that the conversation is at. -/
def dialogueId? (conversation : Conversation) : Option String :=
  match conversation.place with
  | .dialogue id => some id
  | .finished => none

/-- The dialogue that the conversation is at. -/
def active? (valid : ValidTree) (conversation : Conversation) : Option Dialogue :=
  conversation.dialogueId?.bind valid.tree.dialogues.get?

/-- The actions that a dialogue offers, in the order in which it lists them. -/
def offers (valid : ValidTree) (dialogue : Dialogue) : List Action :=
  dialogue.actions.filterMap valid.tree.actions.get?

/-- The identifiers of the actions on offer. -/
def offered (valid : ValidTree) (conversation : Conversation) : List String :=
  match conversation.active? valid with
  | some dialogue => (offers valid dialogue).map Action.id
  | none => []

/-- What there is to show. -/
def view (valid : ValidTree) (conversation : Conversation) : View :=
  match conversation.active? valid with
  | some dialogue => .speaking dialogue.text ((offers valid dialogue).map Action.text)
  | none => .finished

/-- The action on offer that an identifier names. -/
def named (valid : ValidTree) (conversation : Conversation) (action : String) : Except PlayError Action :=
  match conversation.active? valid with
  | none => .error .finished
  | some dialogue =>
    match (offers valid dialogue).find? (·.id == action) with
    | some chosen => .ok chosen
    | none => .error (.notOffered action dialogue.id)

/-- The action on offer at a place in the list, counted from zero. -/
def nth (valid : ValidTree) (conversation : Conversation) (index : Nat) : Except PlayError Action :=
  match conversation.active? valid with
  | none => .error .finished
  | some dialogue =>
    match (offers valid dialogue)[index]? with
    | some chosen => .ok chosen
    | none => .error (.noSuchChoice index dialogue.id (offers valid dialogue).length)

/-! ## Choices -/

/-- What changes a conversation in place and may fail on the way. -/
abbrev Turn := EStateM PlayError Conversation

namespace Turn

/-- Go where an action leads. -/
def follow (action : Action) : Turn Step :=
  match action.next with
  | .dialogue next => do
    modify fun conversation => { conversation with place := .dialogue next }
    return .moved next
  | .finish => do
    modify fun conversation => { conversation with place := .finished }
    return .finished

/-- Go where the action leads that is found from where the conversation is. -/
def pursue (find : Conversation → Except PlayError Action) : Turn Step := do
  let conversation ← get
  let chosen ← MonadExcept.ofExcept (find conversation)
  follow chosen

/-- Take an action on offer. -/
def choose (valid : ValidTree) (action : String) : Turn Step := pursue (named valid · action)

/-- Take the action on offer at a place in the list, counted from zero. -/
def chooseNth (valid : ValidTree) (index : Nat) : Turn Step := pursue (nth valid · index)

/-- Take the action on offer that a choice means. -/
def take (valid : ValidTree) : Choice → Turn Step
  | .named action => choose valid action
  | .nth index => chooseNth valid index

end Turn

/-- What it leads to to take an action on offer, and the conversation there. -/
def choose (valid : ValidTree) (conversation : Conversation) (action : String) :
    Except PlayError (Step × Conversation) :=
  InPlace.outcome (Turn.choose valid action) conversation

/-- What it leads to to take the action on offer at a place in the list, and the conversation there. -/
def chooseNth (valid : ValidTree) (conversation : Conversation) (index : Nat) :
    Except PlayError (Step × Conversation) :=
  InPlace.outcome (Turn.chooseNth valid index) conversation

/-- What it leads to to take the action on offer that a choice means, and the conversation there. -/
def take (valid : ValidTree) (conversation : Conversation) : Choice → Except PlayError (Step × Conversation)
  | .named action => conversation.choose valid action
  | .nth index => conversation.chooseNth valid index

/-- Make a choice, possible or not: what it led to, and the conversation as it is left. -/
def attempt (valid : ValidTree) (conversation : Conversation) (choice : Choice) :
    Except PlayError Step × Conversation :=
  InPlace.ending (Turn.take valid choice) conversation

/-- Go back to the start of the scene. -/
def restart (valid : ValidTree) (conversation : Conversation) : Conversation :=
  match valid.tree.scenes.get? conversation.scene with
  | some entry => { conversation with place := .dialogue entry.start }
  | none => conversation

end Conversation
end Parley
