import Parley.Binary64.Shortest

/-!
# Numbers as they are written in JSON

A numeral keeps the digits that were written.  Its value is exact as long as it is a whole number of 64 bits; any other
value is built from the digits that fit a word of 64 bits, scaled by powers of ten one rounding at a time.

Both directions are those of `serde_json` 1 with its default features.  A number is written in the fewest digits that single
it out, and as a positional one from `1e-5` up to `1e16`.  It is read in a quick way that is not exact: the digits are
gathered in a word of 64 bits and those that do not fit are dropped, the word is rounded to a floating-point number, and
that is multiplied or divided by a rounded power of ten, by at most `1e308` at a time, and rounded again.  So not every
number comes back as the one that was written; what is said about round trips and saved files rests on this.
-/

namespace Parley
namespace Json

/-- A power of ten behind the digits of a numeral. -/
structure Exponent where
  negative : Bool
  digits : List Char
  deriving DecidableEq, Inhabited

/-- A written number, by its decimal digits. -/
structure Numeral where
  negative : Bool := false
  /-- The digits in front of the point. -/
  whole : List Char
  /-- The digits behind the point; none if there is no point. -/
  fraction : List Char := []
  exponent : Option Exponent := none
  deriving DecidableEq, Inhabited

namespace Numeral

/-! ## Text -/

/-- The sign of a number that may be negative. -/
def signText (negative : Bool) : List Char := if negative then ['-'] else []

/-- The text of an exponent, always with a sign. -/
def exponentText (exponent : Exponent) : List Char :=
  'e' :: (if exponent.negative then '-' else '+') :: exponent.digits

/-- The text of a numeral. -/
def text (numeral : Numeral) : List Char :=
  signText numeral.negative ++ numeral.whole ++
    (if numeral.fraction.isEmpty then [] else '.' :: numeral.fraction) ++
    (numeral.exponent.map exponentText).getD []

/-- The numeral of a whole number. -/
def ofInt (number : Int) : Numeral :=
  { negative := number < 0, whole := Nat.toDigits 10 number.natAbs }

/-- A positional number has at most so many digits in front of its point. -/
def largestPlain : Int := 16

/-- A positional number has fewer zeros than this between its point and its first digit. -/
def smallestPlain : Int := 5

/-- The numeral of a decimal number other than zero.  It is positional from `1e-5` up to `1e16`. -/
def ofDecimal (negative : Bool) (decimal : Binary64.Decimal) : Numeral :=
  let digits := Nat.toDigits 10 decimal.digits
  let place : Int := digits.length + decimal.exponent
  if 0 ≤ decimal.exponent && place ≤ largestPlain then
    { negative, whole := digits ++ List.replicate decimal.exponent.toNat '0', fraction := ['0'] }
  else if 0 < place && place ≤ largestPlain then
    { negative, whole := digits.take place.toNat, fraction := digits.drop place.toNat }
  else if place ≤ 0 && -place < smallestPlain then
    { negative, whole := ['0'], fraction := List.replicate (-place).toNat '0' ++ digits }
  else
    { negative
      whole := digits.take 1
      fraction := digits.drop 1
      exponent := some ⟨place - 1 < 0, Nat.toDigits 10 (place - 1).natAbs⟩ }

/-- The numeral of a finite floating-point number. -/
def ofBinary64 (x : Binary64) : Numeral :=
  if x.isZero then { negative := x.isNegative, whole := ['0'], fraction := ['0'] }
  else ofDecimal x.isNegative x.shortest

/-! ## Value -/

/-- The value of a numeral. -/
inductive Number where
  /-- A whole number that is not negative, below `2 ^ 64`. -/
  | natural (value : Nat)
  /-- A negative whole number, not below `-2 ^ 63`. -/
  | negative (value : Int)
  /-- Any other number. -/
  | real (value : Binary64)
  deriving DecidableEq, Inhabited

/-- Whole numbers that are kept exactly lie below this bound. -/
def wordBound : Nat := Nat.pow 2 64

/-- Append decimal digits to a number while it stays below the bound: the number, and how many digits fitted. -/
def accumulate (number : Nat) : List Char → Nat × Nat
  | [] => (number, 0)
  | digit :: rest =>
    let longer := 10 * number + (digit.toNat - '0'.toNat)
    if longer < wordBound then
      let (final, fitted) := accumulate longer rest
      (final, fitted + 1)
    else
      (number, 0)

/-- The greatest power of ten that a factor can have. -/
def greatestPower : Nat := 308

/-- A power of ten as a floating-point number. -/
def powerOfTen (exponent : Nat) : Binary64 := .ofSign false (Binary64.roundNat (Nat.pow 10 exponent))

/-- A number divided by a power of ten, by the greatest factor at a time. -/
def scaleDown (number : Binary64) (exponent : Nat) : Binary64 :=
  if exponent ≤ greatestPower then .ofSign false (number.roundDivision (powerOfTen exponent))
  else if number.isZero then number
  else scaleDown (.ofSign false (number.roundDivision (powerOfTen greatestPower))) (exponent - greatestPower)
termination_by exponent
decreasing_by simp_all [greatestPower]; omega

/-- A number times a power of ten, unless that is out of range. -/
def scaleUp? (number : Binary64) (exponent : Nat) : Option Binary64 :=
  if exponent ≤ greatestPower then
    let scaled := Binary64.ofSign false (number.roundProduct (powerOfTen exponent))
    if scaled.isInfinite then none else some scaled
  else if number.isZero then some number
  else none

/-- The floating-point number of a significand and a power of ten, unless that is out of range. -/
def real? (negative : Bool) (significand : Nat) (exponent : Int) : Option Binary64 :=
  let number := Binary64.ofSign false (Binary64.roundNat significand)
  let scaled := if 0 ≤ exponent then scaleUp? number exponent.toNat else some (scaleDown number (-exponent).toNat)
  scaled.map fun absolute => .ofSign negative absolute.magnitude

/-- Exponents are counted up to this number. -/
def exponentLimit : Nat := Nat.pow 2 31 - 1

/-- The value of a numeral, unless it is out of range. -/
def value? (numeral : Numeral) : Option Number :=
  let (wholePart, wholeFitted) := accumulate 0 numeral.whole
  let dropped := numeral.whole.length - wholeFitted
  let (significand, fractionFitted) := accumulate wholePart numeral.fraction
  let exponent : Int := (dropped : Int) - (fractionFitted : Int)
  match numeral.exponent with
  | some written =>
    let further := Nat.ofDigitChars 10 written.digits 0
    if further ≤ exponentLimit then
      (real? numeral.negative significand
        (if written.negative then exponent - further else exponent + further)).map .real
    else if significand = 0 || written.negative then some (.real (.ofSign numeral.negative 0))
    else none
  | none =>
    if numeral.fraction.isEmpty && dropped = 0 && !numeral.negative then some (.natural wholePart)
    else if numeral.fraction.isEmpty && dropped = 0 && 0 < wholePart && wholePart ≤ Nat.pow 2 63 then
      some (.negative (-wholePart))
    else (real? numeral.negative significand exponent).map .real

end Numeral
end Json
end Parley
