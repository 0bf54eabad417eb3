import Parley.Binary64

/-!
# Shortest decimal digits

A finite number other than zero is written with the fewest decimal digits that round back to it, and of those digits
the ones nearest to it.
-/

namespace Parley
namespace Binary64

/-- A whole number of decimal digits, scaled by a power of ten. -/
structure Decimal where
  /-- The digits as one number. -/
  digits : Nat
  /-- The power of ten by which they are scaled. -/
  exponent : Int
  deriving DecidableEq, Inhabited

/-- The decimal place of the first digit of a positive ratio: `0` for units, `1` for tens, `-1` for tenths. -/
def leadingPlace (numerator denominator : Nat) : Int :=
  if denominator ≤ numerator then
    ((Nat.toDigits 10 (numerator / denominator)).length : Int) - 1
  else
    -((Nat.toDigits 10 ((denominator - 1) / numerator)).length : Int)

/-- The digits of a positive ratio, cut off after the given decimal place, and whether the next number up is nearer.
Of two equally near the even one counts as nearer. -/
def cutAt (numerator denominator : Nat) (place : Int) : Nat × Bool :=
  let scaledNumerator := numerator * Nat.pow 10 (-place).toNat
  let scaledDenominator := denominator * Nat.pow 10 place.toNat
  let digits := scaledNumerator / scaledDenominator
  (digits, roundQuotient scaledNumerator scaledDenominator != digits)

/-- The digits at the given place that round to a magnitude, if the neighbours of its value at that place do. -/
def digitsAt? (magnitude numerator denominator : Nat) (place : Int) : Option Decimal :=
  let (below, upIsNearer) := cutAt numerator denominator place
  let (first, second) := if upIsNearer then (below + 1, below) else (below, below + 1)
  if roundDecimal first place = magnitude then some ⟨first, place⟩
  else if roundDecimal second place = magnitude then some ⟨second, place⟩
  else none

/-- The number without zeros at its end, and how many there were; at most `fuel` are taken away. -/
def stripZeros : (fuel digits : Nat) → Nat × Nat
  | 0, digits => (digits, 0)
  | fuel + 1, digits =>
    if digits % 10 == 0 then
      let (stripped, zeros) := stripZeros fuel (digits / 10)
      (stripped, zeros + 1)
    else
      (digits, 0)

/-- The same value without zeros at the end of its digits. -/
def Decimal.strip (decimal : Decimal) : Decimal :=
  let (digits, zeros) := stripZeros decimal.digits.log2 decimal.digits
  ⟨digits, decimal.exponent + zeros⟩

/-- The fewest digits that round back to a finite number other than zero. Seventeen are always enough. -/
def shortest (x : Binary64) : Decimal :=
  let firstPlace := leadingPlace x.units unitsInOne
  let places := (List.range 17).map fun further => firstPlace - Int.ofNat further
  ((places.findSome? (digitsAt? x.magnitude x.units unitsInOne)).getD
    ⟨(cutAt x.units unitsInOne (firstPlace - 16)).1, firstPlace - 16⟩).strip

end Binary64
end Parley
