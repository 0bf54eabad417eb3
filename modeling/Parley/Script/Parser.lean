import Parley.Script.Statement
import Parley.Script.Token

/-!
# From tokens to statements

Every command token begins a statement:

    create scene    [id] start
    create dialogue [id] "text" action*
    create action   [id] owner next ["reply"]
    update kind id ... (fields as for create)
    delete kind id

where `next` is the identifier of a dialogue or the terminal word.  Whether the optional identifier is written shows by
the number of identifiers alone.  Reading stops at the first faulty statement.
-/

namespace Parley
namespace Script

/-- What has to stand at a place of a statement. -/
inductive Expectation where
  | command
  | kind
  | deletedIdentifier
  | startIdentifier
  | dialogueIdentifier
  | dialogueText
  | ownerAndNext
  | ownerIdentifier
  | actionIdentifier
  | nextIdentifier
  | endOfStatement
  deriving DecidableEq, Inhabited

/-- The words for what has to stand at a place. -/
def Expectation.label : Expectation → String
  | .command => "a command (create, update or delete)"
  | .kind => "scene, dialogue or action"
  | .deletedIdentifier => "the identifier to delete"
  | .startIdentifier => "a starting dialogue identifier"
  | .dialogueIdentifier => "a dialogue identifier"
  | .dialogueText => "quoted dialogue text"
  | .ownerAndNext => "owner and next dialogue identifiers (or 'end')"
  | .ownerIdentifier => "an owning dialogue identifier"
  | .actionIdentifier => "an action identifier"
  | .nextIdentifier => "a next dialogue identifier or 'end'"
  | .endOfStatement => "end of statement"

/-- Why tokens are not a row of statements. -/
structure ParseError where
  /-- The number of the faulty statement. -/
  index : Nat
  /-- What had to stand where the fault is. -/
  expected : Expectation
  /-- The token that stands there; none at the end of the statement. -/
  found : Option Token
  /-- Where it stands, or where the last token of the statement does. -/
  position : Option Position
  deriving DecidableEq, Inhabited

namespace ParseError

/-- The words for what stands where the fault is. -/
def foundLabel (error : ParseError) : String :=
  match error.found with
  | none => "end of statement"
  | some token =>
    if token.kind == .text then s!"{token.kind.label} \"{token.text}\""
    else s!"{token.kind.label} '{token.text}'"

/-- The words for the fault. -/
def message (error : ParseError) : String :=
  s!"command {error.index}: expected {error.expected.label}, found {error.foundLabel}"

end ParseError

/-- What follows the word for the kind: the identifier, if it is written, the fields, and the tokens behind them. -/
abbrev Fields.Reading := Option String × Fields × List Token

/-- What is missing, and the token that stands in its place. -/
abbrev Miss := Expectation × Option Token

/-- Read the fields of a scene. -/
def sceneFields (idRequired : Bool) (tokens : List Token) : Except Miss Fields.Reading :=
  let ids := tokens.takeWhile Token.isIdentifierLike
  let rest := tokens.dropWhile Token.isIdentifierLike
  match ids with
  | [] => .error (.startIdentifier, rest.head?)
  | [start] =>
    if idRequired then .error (.startIdentifier, rest.head?) else .ok (none, .scene start.text, rest)
  | [id, start] => .ok (some id.text, .scene start.text, rest)
  | _ :: _ :: extra :: _ => .error (.endOfStatement, some extra)

/-- Read the line of a dialogue and the actions that it offers. -/
def dialogueLine (id : Option String) : List Token → Except Miss Fields.Reading
  | [] => .error (.dialogueText, none)
  | token :: tokens =>
    if token.kind == .text then
      let actions := tokens.takeWhile Token.isIdentifierLike
      .ok (id, .dialogue token.text (actions.map Token.text), tokens.dropWhile Token.isIdentifierLike)
    else
      .error (.dialogueText, some token)

/-- Read the fields of a dialogue. -/
def dialogueFields (idRequired : Bool) (tokens : List Token) : Except Miss Fields.Reading :=
  let ids := tokens.takeWhile Token.isIdentifierLike
  let rest := tokens.dropWhile Token.isIdentifierLike
  match ids with
  | [] => if idRequired then .error (.dialogueIdentifier, rest.head?) else dialogueLine none rest
  | [id] => dialogueLine (some id.text) rest
  | _ :: extra :: _ => .error (.dialogueText, some extra)

/-- Whether a token can stand among the references of an action. -/
def Token.isReference (token : Token) : Bool := token.isIdentifierLike || token.kind == .name

/-- Read an action whose references are known.  The terminal word may stand for what follows it, and nowhere else. -/
def actionReply (id : Option Token) (owner next : Token) (tokens : List Token) : Except Miss Fields.Reading :=
  if owner.kind == .name then .error (.ownerIdentifier, some owner)
  else if id.any (·.kind == .name) then .error (.actionIdentifier, id)
  else
    match Next.parse? next.text with
    | none => .error (.nextIdentifier, some next)
    | some target =>
      match tokens with
      | [] => .ok (id.map Token.text, .action owner.text target none, [])
      | token :: rest =>
        if token.kind == .text then .ok (id.map Token.text, .action owner.text target (some token.text), rest)
        else .ok (id.map Token.text, .action owner.text target none, token :: rest)

/-- Read the fields of an action. -/
def actionFields (idRequired : Bool) (tokens : List Token) : Except Miss Fields.Reading :=
  let references := tokens.takeWhile Token.isReference
  let rest := tokens.dropWhile Token.isReference
  match references with
  | [] | [_] => .error (.ownerAndNext, rest.head?)
  | [owner, next] =>
    if idRequired then .error (.ownerAndNext, rest.head?) else actionReply none owner next rest
  | [id, owner, next] => actionReply (some id) owner next rest
  | _ :: _ :: _ :: extra :: _ => .error (.endOfStatement, some extra)

/-- Read the fields of an entity of a kind. -/
def fieldsOfKind (kind : Kind) (idRequired : Bool) (tokens : List Token) : Except Miss Fields.Reading :=
  match kind with
  | .scene => sceneFields idRequired tokens
  | .dialogue => dialogueFields idRequired tokens
  | .action => actionFields idRequired tokens

/-- Read what follows the word for the kind: an identifier alone behind `delete`, else an entity's fields. -/
def operands (verb : Verb) (kind : Kind) (tokens : List Token) :
    Except Miss (Option String × Option Fields × List Token) :=
  match verb with
  | .delete =>
    match tokens with
    | [] => .error (.deletedIdentifier, none)
    | token :: rest =>
      if token.isIdentifierLike then .ok (some token.text, none, rest)
      else .error (.deletedIdentifier, some token)
  | .create => (fieldsOfKind kind false tokens).map fun (id, fields, rest) => (id, some fields, rest)
  | .update => (fieldsOfKind kind true tokens).map fun (id, fields, rest) => (id, some fields, rest)

/-- The kind that a token stands for. -/
def Token.kind? (token : Token) : Option Kind :=
  if token.kind == .nodeType then Kind.ofKeyword? token.text else none

/-- Read the statement with the given number from its command token and the tokens behind it. -/
def statementOf (index : Nat) (head : Token) (body : List Token) : Except Miss Statement := do
  let some verb := Verb.ofKeyword? head.text | throw (.command, some head)
  let some kind := body.head?.bind Token.kind? | throw (.kind, body.head?)
  let (id, fields, rest) ← operands verb kind body.tail
  match rest with
  | [] => return { index, verb, kind, id, fields, position := head.position }
  | extra :: _ => throw (.endOfStatement, some extra)

/-- A fault in a statement, with its place. -/
def ParseError.ofMiss (index : Nat) (statement : List Token) (miss : Miss) : ParseError where
  index := index
  expected := miss.1
  found := miss.2
  position := (miss.2.or statement.getLast?).map Token.position

/-- Divide tokens at the command tokens: the tokens in front of the first one, and every command token with the tokens
behind it. -/
def splitAtCommands : List Token → List Token × List (Token × List Token)
  | [] => ([], [])
  | token :: rest =>
    let (body, statements) := splitAtCommands rest
    if token.kind == .command then ([], (token, body) :: statements) else (token :: body, statements)

/-- Read statements that are numbered from `index` on. -/
def statementsFrom (index : Nat) : List (Token × List Token) → Except ParseError (List Statement)
  | [] => .ok []
  | (head, body) :: rest => do
    let statement ← (statementOf index head body).mapError (ParseError.ofMiss index (head :: body))
    let statements ← statementsFrom (index + 1) rest
    return statement :: statements

/-- The statements of a script, or the first fault. -/
def parse (tokens : List Token) : Except ParseError (List Statement) :=
  match splitAtCommands tokens with
  | ([], statements) => statementsFrom 1 statements
  | (token :: _, _) => .error (.ofMiss 1 [token] (.command, some token))

end Script
end Parley
