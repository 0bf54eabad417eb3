import Parley.Script.Lexer
import Parley.Script.Statement

/-!
# Writing scripts

A statement is written as its words and quoted texts in order, with blanks or comments behind each of them.  In a quoted
text, quotes and backslashes have a backslash in front, and every other character stands for itself.
-/

namespace Parley
namespace Script

/-- A word or a quoted text of a script, wherever it stands. -/
inductive Lexeme where
  | verb (verb : Verb)
  | kind (kind : Kind)
  /-- The word that ends a conversation. -/
  | terminal
  | name (id : String)
  | text (content : String)
  deriving DecidableEq

namespace Lexeme

/-- The kind of token that a lexeme is read as. -/
def tokenKind : Lexeme → TokenKind
  | .verb _ => .command
  | .kind _ => .nodeType
  | .terminal => .name
  | .name id => if id.toList.all Char.isDigit then .number else .identifier
  | .text _ => .text

/-- What a lexeme says: its word, or its text without quotes and escapes. -/
def content : Lexeme → String
  | .verb v => v.keyword
  | .kind k => k.keyword
  | .terminal => Identifier.terminal
  | .name id => id
  | .text t => t

/-- The characters for one character of a quoted text. -/
def escape (c : Char) : List Char := if c = '"' || c = '\\' then ['\\', c] else [c]

/-- The characters of a lexeme. -/
def source : Lexeme → List Char
  | .text t => '"' :: (t.toList.flatMap escape ++ ['"'])
  | word => word.content.toList

/-- Names have to be legal. -/
def Legal : Lexeme → Prop
  | .name id => Identifier.isLegal id
  | _ => True

instance (lexeme : Lexeme) : Decidable lexeme.Legal :=
  match lexeme with
  | .name id => inferInstanceAs (Decidable (Identifier.isLegal id = true))
  | .verb _ | .kind _ | .terminal | .text _ => .isTrue trivial

end Lexeme

/-- What a token says, wherever it stands. -/
def Token.face (token : Token) : TokenKind × String := (token.kind, token.text)

/-- What a lexeme is read as, wherever it stands. -/
def Lexeme.face (lexeme : Lexeme) : TokenKind × String := (lexeme.tokenKind, lexeme.content)

/-- The characters that may stand between lexemes: blanks, and comments to the end of their lines. -/
inductive Trivia : List Char → Prop where
  | nil : Trivia []
  | blank {c : Char} {rest : List Char} : Text.isBlank c = true → Trivia rest → Trivia (c :: rest)
  | comment {line rest : List Char} : '\n' ∉ line → Trivia rest → Trivia ('#' :: (line ++ '\n' :: rest))

/-- A lexeme and the gap behind it. -/
abbrev Piece := Lexeme × List Char

/-- A piece can be read again: its name is legal, and its gap is some trivia. -/
structure Piece.Legible (piece : Piece) : Prop where
  legal : piece.1.Legal
  gap_trivia : Trivia piece.2
  gap_ne_nil : piece.2 ≠ []

/-- The characters of pieces. -/
def write (pieces : List Piece) : List Char := pieces.flatMap fun (lexeme, gap) => lexeme.source ++ gap

/-! ## Statements -/

/-- What a statement says, wherever it stands. -/
structure Command where
  verb : Verb
  kind : Kind
  id : Option String
  fields : Option Fields
  deriving DecidableEq

/-- What a statement says, wherever it stands. -/
def Statement.command (statement : Statement) : Command :=
  ⟨statement.verb, statement.kind, statement.id, statement.fields⟩

/-- The lexeme for what follows an action. -/
def nextLexeme : Next → Lexeme
  | .dialogue id => .name id
  | .finish => .terminal

/-- The lexemes of fields, in the order in which they are written. -/
def Fields.lexemes : Fields → List Lexeme
  | .scene start => [.name start]
  | .dialogue text actions => .text text :: actions.map .name
  | .action owner next reply => .name owner :: nextLexeme next :: reply.toList.map .text

namespace Command

/-- The lexemes behind the word for the kind. -/
def operands (command : Command) : List Lexeme :=
  command.id.toList.map .name ++ command.fields.toList.flatMap Fields.lexemes

/-- The lexemes of a statement. -/
def lexemes (command : Command) : List Lexeme := .verb command.verb :: .kind command.kind :: command.operands

/-- A statement names its entity unless it creates one, gives fields unless it deletes, and gives those of its kind. -/
structure WellFormed (command : Command) : Prop where
  named : command.verb ≠ .create → command.id ≠ none
  bare_iff : command.fields = none ↔ command.verb = .delete
  kind_eq : ∀ fields ∈ command.fields, fields.kind = command.kind
  legal : ∀ lexeme ∈ command.lexemes, lexeme.Legal

instance (command : Command) : Decidable command.WellFormed :=
  decidable_of_iff
    ((command.verb ≠ .create → command.id ≠ none) ∧ (command.fields = none ↔ command.verb = .delete) ∧
      (∀ fields ∈ command.fields, fields.kind = command.kind) ∧ ∀ lexeme ∈ command.lexemes, lexeme.Legal)
    ⟨fun ⟨named, bare_iff, kind_eq, legal⟩ => ⟨named, bare_iff, kind_eq, legal⟩,
      fun ⟨named, bare_iff, kind_eq, legal⟩ => ⟨named, bare_iff, kind_eq, legal⟩⟩

end Command
end Script
end Parley
