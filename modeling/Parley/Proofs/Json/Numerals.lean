import Mathlib
import Parley.Json.Decode
import Parley.Proofs.Text.Digits
import Parley.Proofs.Text.Runs

/-!
# Reading written JSON numbers

A written numeral is read as the same numeral.  The numeral of a whole number of 64 bits has this number for its value.
-/

namespace Parley
namespace Json

open Text (StopsAt stopsAt_nil stopsAt_cons_iff takeWhile_run dropWhile_run)

variable {numeral : Numeral} {found rest : List Char} {number : Nat}

namespace Numeral

/-- A numeral as it may be written: digits in front of the point, without zeros at the front, and digits behind the point
and in the exponent. -/
structure Proper (numeral : Numeral) : Prop where
  whole_ne_nil : numeral.whole ≠ []
  whole_digits : ∀ c ∈ numeral.whole, c.isDigit = true
  whole_of_zero : numeral.whole.head? = some '0' → numeral.whole = ['0']
  fraction_digits : ∀ c ∈ numeral.fraction, c.isDigit = true
  exponent_ne_nil : ∀ exponent ∈ numeral.exponent, exponent.digits ≠ []
  exponent_digits : ∀ exponent ∈ numeral.exponent, ∀ c ∈ exponent.digits, c.isDigit = true

/-- The characters with which a number can go on. -/
def goesOn (c : Char) : Bool := c.isDigit || c == '.' || c == 'e' || c == 'E'

/-- The digits behind the point as they are written, with the point. -/
def fractionText (numeral : Numeral) : List Char := if numeral.fraction.isEmpty then [] else '.' :: numeral.fraction

/-- What is written behind a numeral without exponent. -/
def tail (numeral : Numeral) : List Char := (numeral.exponent.map exponentText).getD []

theorem text_append
    (numeral : Numeral)
    (rest : List Char) :
    numeral.text ++ rest =
      signText numeral.negative ++ (numeral.whole ++ (numeral.fractionText ++ (numeral.tail ++ rest))) := by
  simp only [text, fractionText, tail, List.append_assoc]

theorem stopsAt_of_goesOn
    {p : Char → Bool}
    (narrower : ∀ {c}, goesOn c = false → p c = false)
    (stops : StopsAt goesOn rest) :
    StopsAt p rest := fun first there => narrower (stops first there)

theorem isDigit_of_not_goesOn
    {c : Char}
    (stops : goesOn c = false) :
    c.isDigit = false := by
  simp only [goesOn, Bool.or_eq_false_iff] at stops
  exact stops.1.1.1

/-! ## The parts of a numeral -/

theorem someDigits_append
    (nonempty : found ≠ [])
    (allDigits : ∀ c ∈ found, c.isDigit = true)
    (stops : StopsAt Char.isDigit rest) :
    someDigits (found ++ rest) = .ok (found, rest) := by
  rw [someDigits, digits, afterDigits, takeWhile_run allDigits stops, dropWhile_run allDigits stops,
    if_neg (by simpa using nonempty)]

theorem wholePart_append
    (proper : numeral.Proper)
    (stops : StopsAt Char.isDigit rest) :
    wholePart (numeral.whole ++ rest) = .ok (numeral.whole, rest) := by
  unfold wholePart
  split
  · rename_i behind begins
    have zero : numeral.whole.head? = some '0' := by
      rw [← List.head?_append_of_ne_nil _ proper.whole_ne_nil, begins]
      rfl
    rw [proper.whole_of_zero zero] at begins ⊢
    have same : rest = behind := (List.cons.inj begins).2
    rw [← same, digits, stops.takeWhile_eq]
    rfl
  · exact someDigits_append proper.whole_ne_nil proper.whole_digits stops

theorem fractionPart_append
    (proper : numeral.Proper)
    (stops : StopsAt (fun c => c.isDigit || c == '.') rest) :
    fractionPart (numeral.fractionText ++ rest) = .ok (numeral.fraction, rest) := by
  have noDigit : StopsAt Char.isDigit rest := fun first there => (Bool.or_eq_false_iff.mp (stops first there)).1
  unfold fractionText
  split_ifs with none
  · rw [List.isEmpty_iff.mp none, List.nil_append]
    unfold fractionPart
    split
    · cases stopsAt_cons_iff.mp stops
    · rfl
  · exact someDigits_append (by simpa using none) proper.fraction_digits noDigit

theorem exponentPart_append
    (proper : numeral.Proper)
    (stops : StopsAt goesOn rest) :
    exponentPart (numeral.tail ++ rest) = .ok (numeral.exponent, rest) := by
  have noDigit : StopsAt Char.isDigit rest := stopsAt_of_goesOn isDigit_of_not_goesOn stops
  unfold tail
  cases given : numeral.exponent with
  | none =>
      rw [Option.map_none, Option.getD_none, List.nil_append]
      cases rest with
      | nil => rfl
      | cons c behind =>
          have stop := stopsAt_cons_iff.mp stops
          simp only [goesOn, Bool.or_eq_false_iff, beq_eq_false_iff_ne] at stop
          rw [exponentPart, if_neg (by simp [stop.1.2, stop.2])]
  | some exponent =>
      have read := someDigits_append (proper.exponent_ne_nil exponent given) (proper.exponent_digits exponent given) noDigit
      obtain ⟨negative, written⟩ := exponent
      have sign : exponentSign ((if negative then '-' else '+') :: (written ++ rest)) = (negative, written ++ rest) := by
        cases negative <;> rfl
      simp only [Option.map_some, Option.getD_some, exponentText, List.cons_append]
      rw [exponentPart, if_pos (by decide), sign]
      simp only [read]
      rfl

theorem stopsAt_tail
    (stops : StopsAt goesOn rest) :
    StopsAt (fun c => c.isDigit || c == '.') (numeral.tail ++ rest) := by
  unfold tail
  cases numeral.exponent with
  | none =>
      refine stopsAt_of_goesOn (fun stop => ?_) stops
      simp only [goesOn, Bool.or_eq_false_iff] at stop
      exact Bool.or_eq_false_iff.mpr stop.1.1
  | some exponent => exact stopsAt_cons_iff.mpr (by decide)

theorem stopsAt_fractionText
    (stops : StopsAt (fun c => c.isDigit || c == '.') rest) :
    StopsAt Char.isDigit (numeral.fractionText ++ rest) := by
  unfold fractionText
  split_ifs
  · exact fun first there => (Bool.or_eq_false_iff.mp (stops first there)).1
  · exact stopsAt_cons_iff.mpr (by decide)

/-- A written numeral is read as this numeral, behind its sign. -/
theorem unsignedNumeral_append
    (proper : numeral.Proper)
    (stops : StopsAt goesOn rest) :
    unsignedNumeral numeral.negative (numeral.whole ++ (numeral.fractionText ++ (numeral.tail ++ rest))) =
      .ok (numeral, rest) := by
  have behindFraction : StopsAt (fun c => c.isDigit || c == '.') (numeral.tail ++ rest) := stopsAt_tail stops
  rw [unsignedNumeral, wholePart_append proper (stopsAt_fractionText behindFraction)]
  simp only [bind, Except.bind, fractionPart_append proper behindFraction, exponentPart_append proper stops]
  rfl

/-! ## Whole numbers -/

theorem proper_ofInt
    (number : Int) :
    (ofInt number).Proper where
  whole_ne_nil := Nat.toDigits_ne_nil
  whole_digits := Text.isDigit_toDigits _
  whole_of_zero := by
    intro zero
    have none := Text.eq_zero_of_head?_toDigits zero
    rw [ofInt, none]
    rfl
  fraction_digits := fun _ member => absurd member List.not_mem_nil
  exponent_ne_nil := fun _ member => absurd member (Option.not_mem_none _)
  exponent_digits := fun _ member => absurd member (Option.not_mem_none _)

theorem accumulate_eq
    {digits : List Char}
    (small : Nat.ofDigitChars 10 digits number < wordBound) :
    accumulate number digits = (Nat.ofDigitChars 10 digits number, digits.length) := by
  induction digits generalizing number with
  | nil => rfl
  | cons digit rest inductionHypothesis =>
      rw [Nat.ofDigitChars_cons] at small ⊢
      have longer := (Text.ofDigitChars_ten_mono _ rest).trans_lt small
      rw [accumulate]
      dsimp only
      rw [if_pos longer, inductionHypothesis small]
      rfl

theorem accumulate_toDigits
    (small : number < wordBound) :
    accumulate 0 (Nat.toDigits 10 number) = (number, (Nat.toDigits 10 number).length) := by
  have sum := Nat.ofDigitChars_ten_toDigits (n := number)
  rw [accumulate_eq (sum.symm ▸ small), sum]

/-- The numeral of a whole number that is not negative has this number for its value. -/
theorem value?_ofInt_natural
    (small : number < wordBound) :
    (ofInt number).value? = some (.natural number) := by
  simp only [value?, ofInt, Int.natAbs_natCast, accumulate_toDigits small]
  simp

/-- The numeral of a negative whole number has this number for its value. -/
theorem value?_ofInt_negative
    {number : Int}
    (negative : number < 0)
    (small : -(Nat.pow 2 63) ≤ number) :
    (ofInt number).value? = some (.negative number) := by
  have below : number.natAbs < wordBound := by
    simp only [wordBound, Nat.pow_eq] at small ⊢
    omega
  have atMost : number.natAbs ≤ Nat.pow 2 63 := by
    simp only [Nat.pow_eq] at small ⊢
    omega
  have positive : 0 < number.natAbs := by omega
  simp only [value?, ofInt, accumulate_toDigits below]
  simp [negative, positive, atMost, abs_of_neg negative]

end Numeral

/-- A whole number of 64 bits is read as the same number. -/
theorem ofNumber_value?_ofInt
    (number : Int64) :
    (Numeral.ofInt number.toInt).value?.map ofNumber = some (.int number) := by
  have high := number.toInt_lt
  have low := number.le_toInt
  rcases lt_or_ge number.toInt 0 with negative | natural
  · rw [Numeral.value?_ofInt_negative negative (by simpa using low), Option.map_some, ofNumber, Int64.ofInt_toInt]
  · obtain ⟨value, same⟩ := Int.eq_ofNat_of_zero_le natural
    have small : value < Nat.pow 2 63 := by
      rw [Nat.pow_eq]
      omega
    have smaller : value < Numeral.wordBound := small.trans (by decide)
    have word : Int64.ofNat value = number := by
      rw [← Int64.ofInt_toInt number, same]
      rfl
    rw [same, Numeral.value?_ofInt_natural smaller, Option.map_some, ofNumber, if_pos small, word]

end Json
end Parley
