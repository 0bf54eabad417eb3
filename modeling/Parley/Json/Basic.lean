import Parley.Json.Numeral

/-!
# JSON values and their text

A JSON value is written in one line, or with one item a line.  Strings are written as they are except for
quotes, backslashes and control characters.
-/

namespace Parley

/-- A JSON value.  Members of objects keep their order. -/
inductive Json where
  | null
  | bool (value : Bool)
  | number (numeral : Json.Numeral)
  | string (text : List Char)
  | array (items : List Json)
  | object (members : List (List Char × Json))
  deriving Inhabited

namespace Json

/-- The value of a text. -/
def ofString (text : String) : Json := .string text.toList

/-- The member of an object under a name. -/
def member (name : String) (value : Json) : List Char × Json := (name.toList, value)

/-! ## Strings -/

/-- The hexadecimal digits of a control character. -/
def controlDigits (c : Char) : List Char := List.leftpad 4 '0' (Nat.toDigits 16 c.toNat)

/-- The text of one character of a string. -/
def escape (c : Char) : List Char :=
  if c = '"' then ['\\', '"']
  else if c = '\\' then ['\\', '\\']
  else if c = '\x08' then ['\\', 'b']
  else if c = '\t' then ['\\', 't']
  else if c = '\n' then ['\\', 'n']
  else if c = '\x0c' then ['\\', 'f']
  else if c = '\r' then ['\\', 'r']
  else if c.toNat < 0x20 then '\\' :: 'u' :: controlDigits c
  else [c]

/-- The text of a string. -/
def quote (text : List Char) : List Char := '"' :: (text.flatMap escape ++ ['"'])

/-! ## Layout -/

/-- The blanks between the parts of a value. -/
structure Layout where
  /-- What stands in front of an item, and of the end of its container, at some depth. -/
  lineBreak : (depth : Nat) → List Char
  /-- What stands behind a colon. -/
  afterColon : List Char

/-- All in one line, without blanks. -/
def Layout.compact : Layout := ⟨fun _ => [], []⟩

/-- One item a line, two columns deeper than its container. -/
def Layout.pretty : Layout := ⟨fun depth => '\n' :: List.replicate (2 * depth) ' ', [' ']⟩

mutual

/-- The text of a value at some depth. -/
def write (layout : Layout) (depth : Nat) : Json → List Char
  | .null => ['n', 'u', 'l', 'l']
  | .bool true => ['t', 'r', 'u', 'e']
  | .bool false => ['f', 'a', 'l', 's', 'e']
  | .number numeral => numeral.text
  | .string text => quote text
  | .array [] => ['[', ']']
  | .array (item :: rest) =>
    '[' :: (layout.lineBreak (depth + 1) ++ write layout (depth + 1) item ++ writeItems layout depth rest)
  | .object [] => ['\x7b', '\x7d']
  | .object ((name, value) :: rest) =>
    '\x7b' :: (layout.lineBreak (depth + 1) ++ quote name ++ ':' :: layout.afterColon ++
      write layout (depth + 1) value ++ writeMembers layout depth rest)

/-- The text of what follows an item of an array at some depth. -/
def writeItems (layout : Layout) (depth : Nat) : List Json → List Char
  | [] => layout.lineBreak depth ++ [']']
  | item :: rest =>
    ',' :: (layout.lineBreak (depth + 1) ++ write layout (depth + 1) item ++ writeItems layout depth rest)

/-- The text of what follows a member of an object at some depth. -/
def writeMembers (layout : Layout) (depth : Nat) : List (List Char × Json) → List Char
  | [] => layout.lineBreak depth ++ ['\x7d']
  | (name, value) :: rest =>
    ',' :: (layout.lineBreak (depth + 1) ++ quote name ++ ':' :: layout.afterColon ++
      write layout (depth + 1) value ++ writeMembers layout depth rest)

end

/-- The text of a value in one line. -/
def compact (value : Json) : String := String.ofList (value.write .compact 0)

/-- The text of a value with one item a line. -/
def pretty (value : Json) : String := String.ofList (value.write .pretty 0)

end Json
end Parley
