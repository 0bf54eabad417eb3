/-!
# Positions in a text

A position is counted three ways: in bytes of the encoded text, in lines, and in characters since the line began.
-/

namespace Parley
namespace Script

/-- A place between two characters of a text. -/
structure Position where
  /-- Bytes before it, in UTF-8. -/
  offset : Nat
  /-- One more than the line feeds before it. -/
  line : Nat
  /-- One more than the characters since the last line feed. -/
  column : Nat
  deriving DecidableEq, Inhabited

namespace Position

/-- The place before the first character. -/
def start : Position := ⟨0, 1, 1⟩

/-- The place after one more character. -/
def after (position : Position) (c : Char) : Position :=
  if c = '\n' then ⟨position.offset + c.utf8Size, position.line + 1, 1⟩
  else ⟨position.offset + c.utf8Size, position.line, position.column + 1⟩

/-- The place after more characters. -/
def afterAll (position : Position) (cs : List Char) : Position := cs.foldl after position

@[simp] theorem afterAll_nil (position : Position) : position.afterAll [] = position := rfl

@[simp] theorem afterAll_cons (position : Position) (c : Char) (cs : List Char) :
    position.afterAll (c :: cs) = (position.after c).afterAll cs := rfl

theorem afterAll_append (position : Position) (cs ds : List Char) :
    position.afterAll (cs ++ ds) = (position.afterAll cs).afterAll ds :=
  List.foldl_append

/-- The words for a position. -/
def text (position : Position) : String :=
  s!"line {position.line}, column {position.column} (offset {position.offset})"

end Position
end Script
end Parley
