/-!
# Binary floating-point numbers of 64 bits

A number is its word of sign, exponent and fraction.  Its value, its rounding and its arithmetic are exact integer
arithmetic on that word, with no machine operation on floating-point numbers.
-/

namespace Parley

/-- A floating-point number, given by its interchange word. -/
structure Binary64 where
  /-- Sign, eleven bits of exponent and fifty-two bits of fraction. -/
  bits : UInt64
  deriving DecidableEq, Inhabited

namespace Binary64

/-! ## Fields of the word -/

/-- The word without its sign. -/
def magnitude (x : Binary64) : Nat := x.bits.toNat % Nat.pow 2 63

/-- Whether the sign bit is set. -/
def isNegative (x : Binary64) : Bool := Nat.pow 2 63 ≤ x.bits.toNat

/-- The biased exponent. -/
def exponentField (x : Binary64) : Nat := x.magnitude / Nat.pow 2 52

/-- The fraction bits. -/
def fractionField (x : Binary64) : Nat := x.magnitude % Nat.pow 2 52

/-- The magnitude of infinity: an exponent of ones over an empty fraction. -/
def infinityMagnitude : Nat := 2047 * Nat.pow 2 52

/-- Whether the word is no number. -/
def isNaN (x : Binary64) : Bool := infinityMagnitude < x.magnitude

/-- Whether the word is one of the two infinities. -/
def isInfinite (x : Binary64) : Bool := x.magnitude == infinityMagnitude

/-- Whether the word is one of the two zeros. -/
def isZero (x : Binary64) : Bool := x.magnitude == 0

/-- The word with the given sign and magnitude. -/
def ofSign (negative : Bool) (magnitude : Nat) : Binary64 :=
  ⟨UInt64.ofNat (magnitude + if negative then Nat.pow 2 63 else 0)⟩

/-- The positive infinity. -/
def infinity : Binary64 := ofSign false infinityMagnitude

/-- The word that stands for no number. -/
def notANumber : Binary64 := ofSign false (infinityMagnitude + Nat.pow 2 51)

/-- The number with the opposite sign. -/
def negate (x : Binary64) : Binary64 := ofSign (!x.isNegative) x.magnitude

/-- Two words are the same number if they are equal or both zero, and neither is without a number. -/
def same (x y : Binary64) : Bool :=
  !x.isNaN && !y.isNaN && (x == y || (x.isZero && y.isZero))

/-! ## Exact values -/

/-- The absolute value of a finite word, counted in units of `2 ^ -1074`. -/
def units (x : Binary64) : Nat :=
  if x.exponentField = 0 then x.fractionField
  else (Nat.pow 2 52 + x.fractionField) * Nat.pow 2 (x.exponentField - 1)

/-- The number of units in one. -/
def unitsInOne : Nat := Nat.pow 2 1074

/-- The quotient of two numbers as a whole number, the nearest one, and the even one of two equally near. -/
def roundQuotient (numerator denominator : Nat) : Nat :=
  let quotient := numerator / denominator
  let twiceRest := 2 * (numerator % denominator)
  if twiceRest < denominator || (twiceRest == denominator && quotient % 2 == 0) then quotient
  else quotient + 1

/-- The magnitude nearest to a ratio.  Fifty-three binary places are kept, fewer below the least normal number, and
what lies beyond the greatest finite number is infinity. -/
def roundRatio (numerator denominator : Nat) : Nat :=
  let inUnits := numerator * unitsInOne
  let droppedPlaces := (inUnits / denominator).log2 - 52
  min (droppedPlaces * Nat.pow 2 52 + roundQuotient inUnits (denominator * Nat.pow 2 droppedPlaces)) infinityMagnitude

/-- The magnitude nearest to a whole number. -/
def roundNat (number : Nat) : Nat := roundRatio number 1

/-- The magnitude nearest to a whole number times a power of ten. -/
def roundDecimal (digits : Nat) (exponent : Int) : Nat :=
  roundRatio (digits * Nat.pow 10 exponent.toNat) (Nat.pow 10 (-exponent).toNat)

/-- The magnitude of a product, for finite factors. -/
def roundProduct (x y : Binary64) : Nat := roundRatio (x.units * y.units) (unitsInOne * unitsInOne)

/-- The magnitude of a quotient, for finite numbers and a divisor other than zero. -/
def roundDivision (x y : Binary64) : Nat := roundRatio x.units y.units

end Binary64
end Parley
