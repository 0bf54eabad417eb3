/-!
# Sets of characters given by ranges

A property of characters is a list of ranges of code points in increasing order.
-/

namespace Parley
namespace Text

/-- The first and the last code point of a range. -/
abbrev CodeRange := Nat × Nat

/-- Whether a character lies in one of the ranges. -/
def inRanges (c : Char) : List CodeRange → Bool
  | [] => false
  | (first, last) :: rest => first ≤ c.toNat && (c.toNat ≤ last || inRanges c rest)

end Text
end Parley
