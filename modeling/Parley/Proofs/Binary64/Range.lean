import Mathlib
import Parley.Proofs.Binary64.Shortest

/-!
# The range of decimal numbers

Where the digits of a decimal number stand tells whether it is out of range.
-/

namespace Parley
namespace Binary64

variable {digits : Nat} {exponent : Int}

/-- Below the least places that are looked at, a number is less than half a unit. -/
theorem decimal_lt_half_unit
    (small : (Nat.toDigits 10 digits).length + exponent < -400) :
    (digits * 10 ^ exponent * 2 ^ 1074 : ℚ) < 1 / 2 := by
  have tens : (0 : ℚ) < 10 ^ exponent := by positivity
  have digitsBound : (digits : ℚ) < 10 ^ (Nat.toDigits 10 digits).length := by
    rcases Nat.eq_zero_or_pos digits with rfl | positive
    · simp
    · exact_mod_cast (pow_length_toDigits positive).2
  calc (digits * 10 ^ exponent * 2 ^ 1074 : ℚ)
      ≤ 10 ^ (Nat.toDigits 10 digits).length * 10 ^ exponent * (2 ^ 3) ^ 358 := by
        rw [← pow_mul]
        gcongr
    _ ≤ 10 ^ (Nat.toDigits 10 digits).length * 10 ^ exponent * 10 ^ 358 := by
        gcongr
        norm_num
    _ = 10 ^ ((Nat.toDigits 10 digits).length + exponent + 358) := by
        rw [zpow_add₀ (by norm_num), zpow_add₀ (by norm_num), zpow_natCast]
        rfl
    _ ≤ 10 ^ (-1 : Int) := zpow_le_zpow_right₀ (by norm_num) (by omega)
    _ < 1 / 2 := by norm_num

/-- Above the greatest places that are looked at, a number is out of range. -/
theorem range_le_decimal
    (positive : 0 < digits)
    (large : 400 < (Nat.toDigits 10 digits).length + exponent) :
    (2 ^ 2098 : ℚ) ≤ digits * 10 ^ exponent * 2 ^ 1074 := by
  have some := Nat.length_toDigits_pos (b := 10) (n := digits)
  have digitsBound : (10 : ℚ) ^ ((Nat.toDigits 10 digits).length - 1) ≤ digits := by
    exact_mod_cast (pow_length_toDigits positive).1
  calc (2 ^ 2098 : ℚ) ≤ 2 ^ (3 * 400 + 1074) := pow_le_pow_right₀ (by norm_num) (by norm_num)
    _ = (2 ^ 3) ^ 400 * 2 ^ 1074 := by rw [pow_add, pow_mul]
    _ ≤ 10 ^ 400 * 2 ^ 1074 := by
        gcongr
        norm_num
    _ ≤ 10 ^ ((((Nat.toDigits 10 digits).length - 1 : Nat) : Int) + exponent) * 2 ^ 1074 := by
        gcongr
        rw [← zpow_natCast]
        exact zpow_le_zpow_right₀ (by norm_num) (by push_cast [some]; omega)
    _ ≤ digits * 10 ^ exponent * 2 ^ 1074 := by
        rw [zpow_add₀ (by norm_num), zpow_natCast]
        gcongr

end Binary64
end Parley
