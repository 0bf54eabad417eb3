import Mathlib
import Parley.Proofs.Binary64.Shortest
import Parley.Proofs.Text.Digits

/-!
# Decimal numbers with a point

A decimal number is written with digits in front of a point and behind it.  There are zeros in front of its digits or
behind them if the point does not stand among them.
-/

namespace Parley
namespace Binary64
namespace Decimal

open Text (isDigit_toDigits)

variable {decimal : Decimal} {whole fraction : List Char}

/-- Digits in front of a point and behind it that stand for a decimal number. -/
structure SpelledBy (decimal : Decimal) (whole fraction : List Char) : Prop where
  whole_ne_nil : whole ≠ []
  whole_digits : ∀ c ∈ whole, c.isDigit = true
  fraction_digits : ∀ c ∈ fraction, c.isDigit = true
  value : (Nat.ofDigitChars 10 (whole ++ fraction) 0 * 10 ^ (-(fraction.length : Int)) : ℚ) =
    decimal.digits * 10 ^ decimal.exponent

/-- The place of the point among the digits, counted from the first one. -/
def pointPlace (decimal : Decimal) : Int := (Nat.toDigits 10 decimal.digits).length + decimal.exponent

theorem isDigit_replicate_zero
    (count : Nat) :
    ∀ c ∈ List.replicate count '0', c.isDigit = true := by
  intro c member
  rw [List.eq_of_mem_replicate member]
  rfl

/-- Behind the digits of a number of units, tens or more there are zeros, and one behind the point. -/
theorem spelledBy_large
    (large : 0 ≤ decimal.exponent) :
    decimal.SpelledBy (Nat.toDigits 10 decimal.digits ++ List.replicate decimal.exponent.toNat '0') ['0'] where
  whole_ne_nil := List.append_ne_nil_of_left_ne_nil Nat.toDigits_ne_nil _
  whole_digits := List.forall_mem_append.mpr ⟨isDigit_toDigits _, isDigit_replicate_zero _⟩
  fraction_digits := List.forall_mem_singleton.mpr rfl
  value := by
    obtain ⟨zeros, same⟩ := Int.eq_ofNat_of_zero_le large
    have last : ['0'] = List.replicate 1 '0' := rfl
    rw [last, Nat.ofDigitChars_append, Nat.ofDigitChars_append, Nat.ofDigitChars_replicate_zero,
      Nat.ofDigitChars_replicate_zero, Nat.ofDigitChars_ten_toDigits, same, Int.toNat_natCast, zpow_natCast,
      List.length_replicate, Nat.cast_one, zpow_neg_one]
    push_cast
    ring

/-- The point may stand among the digits. -/
theorem spelledBy_among
    (positive : 0 < decimal.pointPlace)
    (small : decimal.exponent ≤ 0) :
    decimal.SpelledBy ((Nat.toDigits 10 decimal.digits).take decimal.pointPlace.toNat)
      ((Nat.toDigits 10 decimal.digits).drop decimal.pointPlace.toNat) where
  whole_ne_nil := by
    rw [ne_eq, List.take_eq_nil_iff, not_or]
    exact ⟨by omega, Nat.toDigits_ne_nil⟩
  whole_digits := fun c member => isDigit_toDigits _ c (List.mem_of_mem_take member)
  fraction_digits := fun c member => isDigit_toDigits _ c (List.mem_of_mem_drop member)
  value := by
    rw [pointPlace] at positive
    have behind : -((((Nat.toDigits 10 decimal.digits).drop decimal.pointPlace.toNat).length : Nat) : Int) =
        decimal.exponent := by
      rw [List.length_drop, pointPlace]
      omega
    rw [List.take_append_drop, Nat.ofDigitChars_ten_toDigits, behind]

/-- In front of the digits of a small number there are zeros, one of them in front of the point. -/
theorem spelledBy_small
    (small : decimal.pointPlace ≤ 0) :
    decimal.SpelledBy ['0'] (List.replicate (-decimal.pointPlace).toNat '0' ++ Nat.toDigits 10 decimal.digits) where
  whole_ne_nil := List.cons_ne_nil _ _
  whole_digits := List.forall_mem_singleton.mpr rfl
  fraction_digits := List.forall_mem_append.mpr ⟨isDigit_replicate_zero _, isDigit_toDigits _⟩
  value := by
    have behind : -(((List.replicate (-decimal.pointPlace).toNat '0' ++ Nat.toDigits 10 decimal.digits).length : Nat) : Int) =
        decimal.exponent := by
      rw [List.length_append, List.length_replicate]
      rw [pointPlace] at small ⊢
      omega
    have first : ['0'] = List.replicate 1 '0' := rfl
    rw [behind, first, Nat.ofDigitChars_append, Nat.ofDigitChars_append, Nat.ofDigitChars_replicate_zero,
      Nat.ofDigitChars_replicate_zero, Nat.mul_zero, Nat.ofDigitChars_ten_toDigits]

end Decimal
end Binary64
end Parley
