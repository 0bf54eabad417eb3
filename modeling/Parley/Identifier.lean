/-!
# Identifiers

Scenes, dialogues and actions are named by short words: ASCII letters, digits and underscores, and none of the words
that scripts keep for themselves.  A word of digits alone is also a number, and identifiers that the library makes up
are such numbers, padded with zeros.
-/

namespace Parley
namespace Identifier

/-- The word that ends a conversation where the identifier of a dialogue may stand. -/
def terminal : String := "end"

/-- The words of the script language, none of which names an entity. -/
def reservedWords : List String :=
  ["create", "update", "delete", "scene", "dialogue", "action", terminal]

/-- ASCII letters, digits and the underscore. -/
def isWordChar (c : Char) : Bool := c.isAlphanum || c == '_'

/-- A text names an entity if it is a non-empty word and not reserved. -/
def isLegal (text : String) : Bool :=
  !text.isEmpty && text.toList.all isWordChar && !reservedWords.contains text

/-- Numbers of identifiers lie below this bound. -/
def numberBound : Nat := Nat.pow 2 64

/-- The number that a text of decimal digits stands for, if it lies below the bound.  Leading zeros do not count. -/
def number? (text : String) : Option Nat :=
  if !text.isEmpty && text.toList.all Char.isDigit then
    let value := Nat.ofDigitChars 10 text.toList 0
    if value < numberBound then some value else none
  else
    none

/-- The decimal digits of a number, filled up with zeros on the left to at least `width` places.  Widths are taken to be at
most 65535, which is as far as the formatting of numbers can be relied on to fill up; any greater width is filled up here in
the same way. -/
def ofNumber (number width : Nat) : String :=
  String.ofList (List.leftpad width '0' (Nat.toDigits 10 number))

end Identifier
end Parley
