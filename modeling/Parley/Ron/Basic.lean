import Parley.Binary64.Shortest
import Parley.Text.Escape

/-!
# RON values and their text

RON is a notation for records, lists and maps, with names for records and for optional values.  A value is written with
one item a line and a comma behind every item.

The layout is that of the pretty printer of `ron` 0.8 with its default settings, and so is the limit on nesting, which holds
for writing and for reading: 128 levels, where a container is a level and what it holds is one more.
-/

namespace Parley

/-- A RON value. -/
inductive Ron where
  /-- An empty pair of parentheses. -/
  | unit
  | bool (value : Bool)
  /-- A whole number, which may have been written with a sign. -/
  | int (signed : Bool) (value : Int)
  | float (value : Binary64)
  | char (value : Char)
  | string (text : List Char)
  /-- A name that stands alone. -/
  | bare (name : List Char)
  /-- An optional value that is not there. -/
  | absent
  /-- An optional value that is there. -/
  | present (value : Ron)
  | list (items : List Ron)
  /-- Values in parentheses, maybe behind a name. -/
  | tuple (name : Option (List Char)) (items : List Ron)
  /-- Named values in parentheses, maybe behind a name. -/
  | record (name : Option (List Char)) (fields : List (List Char × Ron))
  | map (entries : List (Ron × Ron))
  deriving Inhabited

namespace Ron

/-- The value of a text. -/
def ofString (text : String) : Ron := .string text.toList

/-- The value of a whole number. -/
def ofInt (number : Int) : Ron := .int (decide (number < 0)) number

/-! ## Leaves -/

/-- The quotes that are escaped in strings. -/
def escapedQuotes : List Char := ['"', '\'']

/-- The text of a string. -/
def quote (text : List Char) : List Char := '"' :: (text.flatMap (Text.escape escapedQuotes) ++ ['"'])

/-- The text of a whole number. -/
def intText (number : Int) : List Char :=
  (if number < 0 then ['-'] else []) ++ Nat.toDigits 10 number.natAbs

/-- The positional text of a decimal number, with a point. -/
def decimalText (decimal : Binary64.Decimal) : List Char :=
  let digits := Nat.toDigits 10 decimal.digits
  let place : Int := digits.length + decimal.exponent
  if 0 ≤ decimal.exponent then digits ++ List.replicate decimal.exponent.toNat '0' ++ ['.', '0']
  else if 0 < place then digits.take place.toNat ++ '.' :: digits.drop place.toNat
  else '0' :: '.' :: (List.replicate (-place).toNat '0' ++ digits)

/-- The text of a floating-point number. -/
def floatText (x : Binary64) : List Char :=
  if x.isNaN then ['N', 'a', 'N']
  else
    (if x.isNegative then ['-'] else []) ++
      (if x.isInfinite then ['i', 'n', 'f']
      else if x.isZero then ['0', '.', '0']
      else decimalText x.shortest)

/-! ## Layout -/

/-- A new line at some depth. -/
def newLine (depth : Nat) : List Char := '\n' :: List.replicate (4 * depth) ' '

mutual

/-- The text of a value at some depth. -/
def write (depth : Nat) : Ron → List Char
  | .unit => ['(', ')']
  | .bool true => ['t', 'r', 'u', 'e']
  | .bool false => ['f', 'a', 'l', 's', 'e']
  | .int _ value => intText value
  | .float value => floatText value
  | .char value => '\'' :: (Text.escape escapedQuotes value ++ ['\''])
  | .string text => quote text
  | .bare name => name
  | .absent => ['N', 'o', 'n', 'e']
  | .present value => ['S', 'o', 'm', 'e', '('] ++ write depth value ++ [')']
  | .list [] => ['[', ']']
  | .list (item :: rest) => '[' :: (writeItems (depth + 1) (item :: rest) ++ newLine depth ++ [']'])
  | .tuple name [] => name.getD [] ++ ['(', ')']
  | .tuple name (item :: rest) =>
    name.getD [] ++ '(' :: (writeItems (depth + 1) (item :: rest) ++ newLine depth ++ [')'])
  | .record name [] => name.getD [] ++ ['(', ')']
  | .record name (field :: rest) =>
    name.getD [] ++ '(' :: (writeFields (depth + 1) (field :: rest) ++ newLine depth ++ [')'])
  | .map [] => ['\x7b', '\x7d']
  | .map (entry :: rest) => '\x7b' :: (writeEntries (depth + 1) (entry :: rest) ++ newLine depth ++ ['\x7d'])

/-- The text of items at some depth. -/
def writeItems (depth : Nat) : List Ron → List Char
  | [] => []
  | item :: rest => newLine depth ++ write depth item ++ ',' :: writeItems depth rest

/-- The text of the fields of a record at some depth. -/
def writeFields (depth : Nat) : List (List Char × Ron) → List Char
  | [] => []
  | (name, value) :: rest =>
    newLine depth ++ name ++ ':' :: ' ' :: write depth value ++ ',' :: writeFields depth rest

/-- The text of the entries of a map at some depth. -/
def writeEntries (depth : Nat) : List (Ron × Ron) → List Char
  | [] => []
  | (key, value) :: rest =>
    newLine depth ++ write depth key ++ ':' :: ' ' :: write depth value ++ ',' :: writeEntries depth rest

end

/-- The text of a value with one item a line. -/
def pretty (value : Ron) : String := String.ofList (value.write 0)

/-! ## Nesting -/

/-- Values may be nested to this depth, containers and what they hold being counted each by themselves. -/
def nestingLimit : Nat := 128

mutual

/-- How deep a value is nested.  A container counts once, and once more for what it holds. -/
def nesting : Ron → Nat
  | .present value => 1 + nesting value
  | .list items => 1 + itemsNesting items
  | .tuple _ items => 1 + itemsNesting items
  | .record _ fields => 1 + fieldsNesting fields
  | .map entries => 1 + entriesNesting entries
  | _ => 0

/-- How deep the items of a container are nested. -/
def itemsNesting : List Ron → Nat
  | [] => 0
  | item :: rest => max (1 + nesting item) (itemsNesting rest)

/-- How deep the fields of a record are nested. -/
def fieldsNesting : List (List Char × Ron) → Nat
  | [] => 0
  | (_, value) :: rest => max (1 + nesting value) (fieldsNesting rest)

/-- How deep the entries of a map are nested. -/
def entriesNesting : List (Ron × Ron) → Nat
  | [] => 0
  | (key, value) :: rest => max (1 + max (nesting key) (nesting value)) (entriesNesting rest)

end

end Ron
end Parley
