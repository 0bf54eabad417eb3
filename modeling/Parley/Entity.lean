import Parley.Identifier
import Parley.Value

/-!
# Entities

A conversation is made of three kinds of entities.  A scene is where a conversation starts, a dialogue is a line that is
spoken, and an action is a reply that leads on to another dialogue or ends the conversation.  Entities name one another
by identifier only.
-/

namespace Parley

/-- The kinds of entities. -/
inductive Kind where
  | scene
  | dialogue
  | action
  deriving DecidableEq, Inhabited

namespace Kind

/-- The word for a kind. -/
def keyword : Kind → String
  | .scene => "scene"
  | .dialogue => "dialogue"
  | .action => "action"

/-- The kind that a word stands for. -/
def ofKeyword? : String → Option Kind
  | "scene" => some .scene
  | "dialogue" => some .dialogue
  | "action" => some .action
  | _ => none

end Kind

/-- What follows an action. -/
inductive Next where
  /-- The conversation goes on at a dialogue. -/
  | dialogue (id : String)
  /-- The conversation is over. -/
  | finish
  deriving DecidableEq, Inhabited

namespace Next

/-- What a text says: the terminal word, or the identifier of a dialogue. -/
def parse? (text : String) : Option Next :=
  if text == Identifier.terminal then some .finish
  else if Identifier.isLegal text then some (.dialogue text)
  else none

/-- The text that says it. -/
def text : Next → String
  | .dialogue id => id
  | .finish => Identifier.terminal

/-- The dialogue that follows, if one does. -/
def dialogue? : Next → Option String
  | .dialogue id => some id
  | .finish => none

end Next

/-- An entry point into a conversation. -/
structure Scene where
  /-- Its own identifier. -/
  id : String
  /-- The dialogue that it starts with. -/
  start : String
  /-- Its developer data. -/
  context : Context := Context.empty
  deriving Inhabited

/-- A spoken line, with the replies that it offers. -/
structure Dialogue where
  /-- Its own identifier. -/
  id : String
  /-- The line. -/
  text : String
  /-- The actions that it offers, in the order in which they are shown. -/
  actions : List String := []
  /-- Its developer data. -/
  context : Context := Context.empty
  deriving Inhabited

/-- A reply, or a silent continuation. -/
structure Action where
  /-- Its own identifier. -/
  id : String
  /-- The dialogue that it belongs to. -/
  owner : String
  /-- Where it leads. -/
  next : Next
  /-- The words of the reply; none for a silent continuation. -/
  text : Option String := none
  /-- Its developer data. -/
  context : Context := Context.empty
  deriving Inhabited

/-- Whether a dialogue lists an action. -/
def Dialogue.offers (dialogue : Dialogue) (action : String) : Bool := dialogue.actions.contains action

/-- The dialogue with one more action at the end of its list. -/
def Dialogue.withAction (dialogue : Dialogue) (action : String) : Dialogue :=
  { dialogue with actions := dialogue.actions ++ [action] }

/-- An entity of any kind. -/
inductive Entity where
  | scene (scene : Scene)
  | dialogue (dialogue : Dialogue)
  | action (action : Action)
  deriving Inhabited

namespace Entity

/-- The kind of an entity. -/
def kind : Entity → Kind
  | .scene _ => .scene
  | .dialogue _ => .dialogue
  | .action _ => .action

/-- The identifier of an entity. -/
def id : Entity → String
  | .scene s => s.id
  | .dialogue d => d.id
  | .action a => a.id

/-- The developer data of an entity. -/
def context : Entity → Context
  | .scene s => s.context
  | .dialogue d => d.context
  | .action a => a.context

/-- The entity with other developer data. -/
def withContext (entity : Entity) (context : Context) : Entity :=
  match entity with
  | .scene s => .scene { s with context }
  | .dialogue d => .dialogue { d with context }
  | .action a => .action { a with context }

end Entity

/-! ## Sameness up to the numbers in contexts -/

/-- Whether two scenes are the same, contexts being compared as values. -/
def Scene.same (left right : Scene) : Bool :=
  left.id == right.id && left.start == right.start && left.context.same right.context

/-- Whether two dialogues are the same, contexts being compared as values. -/
def Dialogue.same (left right : Dialogue) : Bool :=
  left.id == right.id && left.text == right.text && left.actions == right.actions &&
    left.context.same right.context

/-- Whether two actions are the same, contexts being compared as values. -/
def Action.same (left right : Action) : Bool :=
  left.id == right.id && left.owner == right.owner && left.next == right.next && left.text == right.text &&
    left.context.same right.context

end Parley
