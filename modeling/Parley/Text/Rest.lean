/-!
# What is left of a text

A reader takes a part off the front of a text and hands back the rest, together with the fact that it is not longer.
Readers that call themselves end because of it.
-/

namespace Parley
namespace Text

/-- What is left of a text after a part of it that may be empty. -/
abbrev Remainder (text : List Char) := { rest : List Char // rest.length ≤ text.length }

/-- What is left of a text after a part of it. -/
abbrev Rest (text : List Char) := { rest : List Char // rest.length < text.length }

/-- What is left of a text is left of a text that is not shorter. -/
def Remainder.widen {shorter longer : List Char} (rest : Remainder shorter)
    (le : shorter.length ≤ longer.length) : Remainder longer :=
  ⟨rest.1, Nat.le_trans rest.2 le⟩

/-- What is left of a text is a part of a longer text. -/
def Remainder.within {shorter longer : List Char} (rest : Remainder shorter)
    (lt : shorter.length < longer.length) : Rest longer :=
  ⟨rest.1, Nat.lt_of_le_of_lt rest.2 lt⟩

/-- What is left of a text is left of a text that is not shorter. -/
def Rest.widen {shorter longer : List Char} (rest : Rest shorter)
    (le : shorter.length ≤ longer.length) : Rest longer :=
  ⟨rest.1, Nat.lt_of_lt_of_le rest.2 le⟩

/-- What is left after a part of a text is left after a part that may be empty. -/
def Rest.weaken {text : List Char} (rest : Rest text) : Remainder text := ⟨rest.1, Nat.le_of_lt rest.2⟩

theorem length_le_cons (c : Char) (rest : List Char) : rest.length ≤ (c :: rest).length := Nat.le_succ rest.length

theorem length_lt_cons (c : Char) (rest : List Char) : rest.length < (c :: rest).length := Nat.lt_succ_self rest.length

theorem length_cons_le (c : Char) {rest text : List Char} (shorter : rest.length < text.length) :
    (c :: rest).length ≤ text.length := shorter

theorem length_dropWhile_le (p : Char → Bool) (text : List Char) : (text.dropWhile p).length ≤ text.length :=
  (List.dropWhile_sublist p).length_le

/-- What is left behind the characters of some kind. -/
def skipWhile (p : Char → Bool) (text : List Char) : Remainder text := ⟨text.dropWhile p, length_dropWhile_le p text⟩

end Text
end Parley
