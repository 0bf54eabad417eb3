import Parley.Identifier
import Parley.Script.Position

/-!
# Tokens of a script

A script is a row of words and quoted texts.  A word is told apart by its spelling alone.
-/

namespace Parley
namespace Script

/-- What a token is. -/
inductive TokenKind where
  /-- The verb of a statement. -/
  | command
  /-- The word for a kind of entity. -/
  | nodeType
  /-- The word that ends a conversation. -/
  | name
  | identifier
  /-- A word of digits alone. -/
  | number
  /-- A quoted text. -/
  | text
  deriving DecidableEq, Inhabited

/-- The words for a kind of token. -/
def TokenKind.label : TokenKind → String
  | .command => "command"
  | .nodeType => "node type"
  | .name => "name"
  | .identifier => "identifier"
  | .number => "number"
  | .text => "quoted text"

/-- A word, or a quoted text without its quotes and with its escapes resolved. -/
structure Token where
  kind : TokenKind
  text : String
  /-- Where its first character stands. -/
  position : Position
  deriving DecidableEq, Inhabited

/-- Whether a token can name an entity. -/
def Token.isIdentifierLike (token : Token) : Bool :=
  token.kind == .identifier || token.kind == .number

/-- What a bare word is, if it is a word of the language. -/
def classify? (word : String) : Option TokenKind :=
  if ["create", "update", "delete"].contains word then some .command
  else if ["scene", "dialogue", "action"].contains word then some .nodeType
  else if word == Identifier.terminal then some .name
  else if word.toList.all Char.isDigit then some .number
  else if Identifier.isLegal word then some .identifier
  else none

/-- Why a text is not a row of tokens. -/
inductive LexError where
  /-- A word that is none of the language. -/
  | unclassifiable (text : String) (position : Position)
  /-- A quoted text that is never closed. -/
  | unterminatedText (text : String) (position : Position)
  /-- A backslash before a character that needs none. -/
  | badEscape (text : String) (position : Position)
  deriving DecidableEq, Inhabited

namespace LexError

/-- Where the fault begins. -/
def position : LexError → Position
  | .unclassifiable _ position => position
  | .unterminatedText _ position => position
  | .badEscape _ position => position

/-- The faulty part of the text. -/
def text : LexError → String
  | .unclassifiable text _ => text
  | .unterminatedText text _ => text
  | .badEscape text _ => text

/-- The words for the fault. -/
def message : LexError → String
  | .unclassifiable text position => s!"cannot classify '{text}' at {position.text}"
  | .unterminatedText text position => s!"unterminated text '{text}' starting at {position.text}"
  | .badEscape text position => s!"unknown escape '{text}' at {position.text}"

end LexError
end Script
end Parley
