import Mathlib
import Parley.Binary64.Shortest
import Parley.Proofs.Binary64.Rounding

/-!
# Decimal digits that round back

Rounding a decimal number looks at nothing but its value.  Among seventeen decimal digits there are always some that round
back to a finite number, so the fewest digits that do are found, and they round back to it.
-/

namespace Parley
namespace Binary64

variable {numerator denominator digits magnitude : Nat} {exponent place : Int} {x : Binary64} {decimal : Decimal}

/-! ## Values of decimal numbers -/

theorem ten_zpow_eq
    (exponent : Int) :
    (10 : ℚ) ^ exponent = 10 ^ exponent.toNat / 10 ^ (-exponent).toNat := by
  rcases Int.le_total 0 exponent with natural | negative
  · obtain ⟨power, rfl⟩ := Int.eq_ofNat_of_zero_le natural
    simp
  · obtain ⟨power, same⟩ := Int.eq_ofNat_of_zero_le (Int.neg_nonneg.mpr negative)
    obtain rfl : exponent = -power := by omega
    simp

/-- The value of a decimal number in units. -/
theorem unitsOfRatio_decimal
    (digits : Nat)
    (exponent : Int) :
    unitsOfRatio (digits * Nat.pow 10 exponent.toNat) (Nat.pow 10 (-exponent).toNat) =
      digits * 10 ^ exponent * unitsInOne := by
  rw [unitsOfRatio, ten_zpow_eq, Nat.pow_eq, Nat.pow_eq]
  push_cast
  ring

/-- Rounding a decimal number looks at nothing but its value. -/
theorem roundDecimal_congr
    {otherDigits : Nat}
    {otherExponent : Int}
    (same : (digits * 10 ^ exponent : ℚ) = otherDigits * 10 ^ otherExponent) :
    roundDecimal digits exponent = roundDecimal otherDigits otherExponent := by
  refine roundRatio_congr (Nat.pow_pos (by decide)) (Nat.pow_pos (by decide)) ?_
  rw [ten_zpow_eq, ten_zpow_eq, ← mul_div_assoc, ← mul_div_assoc, div_eq_div_iff (by positivity) (by positivity)] at same
  simp only [Nat.pow_eq]
  exact_mod_cast same

theorem roundDecimal_zero
    (exponent : Int) :
    roundDecimal 0 exponent = 0 := by
  refine roundRatio_eq_zero (Nat.pow_pos (by decide)) ?_
  rw [unitsOfRatio_decimal, Nat.cast_zero, zero_mul, zero_mul]
  norm_num

/-! ## The first decimal place -/

theorem pow_length_toDigits
    (positive : 0 < digits) :
    10 ^ ((Nat.toDigits 10 digits).length - 1) ≤ digits ∧ digits < 10 ^ (Nat.toDigits 10 digits).length := by
  have some := Nat.length_toDigits_pos (b := 10) (n := digits)
  refine ⟨?_, (Nat.length_toDigits_le_iff (by decide) some).mp le_rfl⟩
  rcases Nat.eq_zero_or_pos ((Nat.toDigits 10 digits).length - 1) with none | more
  · rw [none]
    exact positive
  · by_contra less
    have short := (Nat.length_toDigits_le_iff (by decide) more).mpr (not_le.mp less)
    omega

/-- The first digit of a ratio stands at its leading place. -/
theorem leadingPlace_spec
    (positive : 0 < numerator)
    (denominatorPositive : 0 < denominator) :
    (10 : ℚ) ^ leadingPlace numerator denominator ≤ numerator / denominator ∧
      (numerator / denominator : ℚ) < 10 ^ (leadingPlace numerator denominator + 1) := by
  have above : (0 : ℚ) < numerator := by exact_mod_cast positive
  have below : (0 : ℚ) < denominator := by exact_mod_cast denominatorPositive
  rw [leadingPlace, le_div_iff₀ below, div_lt_iff₀ below]
  split_ifs with large
  · obtain ⟨low, high⟩ := pow_length_toDigits (Nat.div_pos large denominatorPositive)
    have some := Nat.length_toDigits_pos (b := 10) (n := numerator / denominator)
    rw [Nat.le_div_iff_mul_le denominatorPositive] at low
    rw [Nat.div_lt_iff_lt_mul denominatorPositive] at high
    obtain ⟨further, length⟩ := Nat.exists_eq_add_one.mpr some
    rw [length] at low high ⊢
    simp only [Nat.add_sub_cancel] at low
    push_cast
    rw [add_sub_cancel_right]
    constructor
    · exact_mod_cast low
    · exact_mod_cast high
  · have fitting : 0 < (denominator - 1) / numerator := Nat.div_pos (by omega) positive
    obtain ⟨low, high⟩ := pow_length_toDigits fitting
    have some := Nat.length_toDigits_pos (b := 10) (n := (denominator - 1) / numerator)
    rw [Nat.le_div_iff_mul_le positive] at low
    rw [Nat.div_lt_iff_lt_mul positive] at high
    obtain ⟨further, length⟩ := Nat.exists_eq_add_one.mpr some
    rw [length] at low high ⊢
    simp only [Nat.add_sub_cancel] at low
    have lowNat : 10 ^ further * numerator < denominator := by omega
    have highNat : denominator ≤ 10 ^ (further + 1) * numerator := by omega
    have lowCast : (10 ^ further * numerator : ℚ) < denominator := by exact_mod_cast lowNat
    have highCast : (denominator : ℚ) ≤ 10 ^ (further + 1) * numerator := by exact_mod_cast highNat
    have exponents : -((further + 1 : Nat) : Int) + 1 = -(further : Int) := by push_cast; ring
    rw [exponents, zpow_neg, zpow_neg, zpow_natCast, zpow_natCast]
    constructor
    · rwa [inv_mul_le_iff₀ (by positivity)]
    · rwa [lt_inv_mul_iff₀ (by positivity)]

/-! ## Digits that are cut off -/

theorem stripZeros_spec
    (fuel digits : Nat) :
    (stripZeros fuel digits).1 * 10 ^ (stripZeros fuel digits).2 = digits := by
  induction fuel generalizing digits with
  | zero => simp [stripZeros]
  | succ fuel inductionHypothesis =>
      rw [stripZeros]
      split_ifs with tens
      · have back := inductionHypothesis (digits / 10)
        have whole : digits / 10 * 10 = digits := Nat.div_mul_cancel (Nat.dvd_of_mod_eq_zero (beq_iff_eq.mp tens))
        rw [pow_succ, ← Nat.mul_assoc, back, whole]
      · simp

/-- Stripping zeros from digits leaves the value as it is. -/
theorem value_strip
    (decimal : Decimal) :
    (decimal.strip.digits * 10 ^ decimal.strip.exponent : ℚ) = decimal.digits * 10 ^ decimal.exponent := by
  have back := stripZeros_spec decimal.digits.log2 decimal.digits
  rw [Decimal.strip]
  generalize stripZeros decimal.digits.log2 decimal.digits = parts at back
  obtain ⟨stripped, zeros⟩ := parts
  rw [← back, zpow_add₀ (by norm_num), zpow_natCast]
  push_cast
  ring

theorem digits_strip_le
    (decimal : Decimal) :
    decimal.strip.digits ≤ decimal.digits := by
  have back := stripZeros_spec decimal.digits.log2 decimal.digits
  rw [Decimal.strip]
  generalize stripZeros decimal.digits.log2 decimal.digits = parts at back
  obtain ⟨stripped, zeros⟩ := parts
  exact (Nat.le_mul_of_pos_right _ (by positivity)).trans_eq back

/-! ## Candidates -/

/-- The digits of a ratio from its first one to a decimal place, with what is left of it. -/
theorem scaled_eq
    (numerator denominator : Nat)
    (place : Int) :
    ((numerator * Nat.pow 10 (-place).toNat : Nat) : ℚ) / (denominator * Nat.pow 10 place.toNat : Nat) =
      numerator / denominator / 10 ^ place := by
  rw [ten_zpow_eq, Nat.pow_eq, Nat.pow_eq]
  push_cast
  field_simp

/-- Of the two candidates the first one is the nearest. -/
theorem nearest_cutAt
    (numerator denominator : Nat)
    (place : Int) :
    (if (cutAt numerator denominator place).2 then (cutAt numerator denominator place).1 + 1
      else (cutAt numerator denominator place).1) =
      roundQuotient (numerator * Nat.pow 10 (-place).toNat) (denominator * Nat.pow 10 place.toNat) := by
  simp only [cutAt, roundQuotient]
  split_ifs <;> simp_all

/-- Digits that are found at a place round back, and are as many as the ratio has up to there. -/
theorem of_digitsAt?
    (found : digitsAt? magnitude numerator denominator place = some decimal) :
    decimal.exponent = place ∧ decimal.digits ≤ (cutAt numerator denominator place).1 + 1 ∧
      roundDecimal decimal.digits decimal.exponent = magnitude := by
  rw [digitsAt?] at found
  generalize cutAt numerator denominator place = cut at found ⊢
  obtain ⟨below, upIsNearer⟩ := cut
  cases upIsNearer with
  | false =>
      simp only [Bool.false_eq_true, if_false] at found
      split_ifs at found with first second <;> cases found
      · exact ⟨rfl, Nat.le_succ below, first⟩
      · exact ⟨rfl, le_rfl, second⟩
  | true =>
      simp only [if_true] at found
      split_ifs at found with first second <;> cases found
      · exact ⟨rfl, le_rfl, first⟩
      · exact ⟨rfl, Nat.le_succ below, second⟩

/-- If the nearest candidate rounds back, then digits are found. -/
theorem isSome_digitsAt?
    (nearest : roundDecimal
      (roundQuotient (numerator * Nat.pow 10 (-place).toNat) (denominator * Nat.pow 10 place.toNat)) place = magnitude) :
    (digitsAt? magnitude numerator denominator place).isSome := by
  rw [← nearest_cutAt] at nearest
  rw [digitsAt?]
  generalize cutAt numerator denominator place = cut at nearest ⊢
  obtain ⟨below, upIsNearer⟩ := cut
  cases upIsNearer with
  | false =>
      simp only [Bool.false_eq_true, if_false] at nearest ⊢
      rw [if_pos nearest]
      rfl
  | true =>
      simp only [if_true] at nearest ⊢
      rw [if_pos nearest]
      rfl

/-! ## Seventeen digits -/

theorem units_pos
    (nonzero : x.magnitude ≠ 0) :
    0 < x.units := by
  obtain ⟨places, significand, parts, placed, -⟩ := exists_placed x.magnitude
  rw [units_of_placed placed parts]
  refine Nat.mul_pos (Nat.pos_of_ne_zero ?_) (Nat.pow_pos two_pos)
  rintro rfl
  have none : places = 0 := placed.full.resolve_left (by decide)
  exact nonzero (by rw [parts, none, Nat.zero_mul])

theorem cast_unitsInOne : (unitsInOne : ℚ) = 2 ^ 1074 := by
  unfold unitsInOne
  generalize 1074 = power
  rw [Nat.pow_eq]
  push_cast
  rfl

theorem unitsInOne_pos : 0 < unitsInOne := by
  unfold unitsInOne
  generalize 1074 = power
  exact Nat.pow_pos two_pos

/-- Rounding a quotient of at least `10 ^ 16` misses no more than a part in `2 * 10 ^ 16`. -/
theorem abs_rounded_sub_le
    {nearest amount scale : ℚ}
    (scalePositive : 0 < scale)
    (large : scale * 10 ^ 16 ≤ amount)
    (close : |nearest - amount / scale| ≤ 1 / 2) :
    |nearest * scale - amount| ≤ amount / (2 * 10 ^ 16) := by
  rw [sub_div' scalePositive.ne', abs_div, abs_of_pos scalePositive, div_le_div_iff₀ scalePositive two_pos] at close
  rw [le_div_iff₀ (by norm_num)]
  linarith

/-- Cut off after its seventeenth digit and rounded, a finite number is near enough to round back. -/
theorem roundDecimal_seventeen
    (nonzero : x.magnitude ≠ 0)
    (finite : x.magnitude < infinityMagnitude)
    (at17 : place = leadingPlace x.units unitsInOne - 16) :
    roundDecimal (roundQuotient (x.units * Nat.pow 10 (-place).toNat) (unitsInOne * Nat.pow 10 place.toNat)) place =
      x.magnitude := by
  obtain ⟨places, significand, parts, placed, less⟩ := exists_placed x.magnitude
  have one : (0 : ℚ) < unitsInOne := by exact_mod_cast unitsInOne_pos
  have tens : (0 : ℚ) < 10 ^ place := by positivity
  have power : (0 : ℚ) < 2 ^ places := by positivity
  have units : (x.units : ℚ) = significand * 2 ^ places := by
    exact_mod_cast congrArg (Nat.cast : Nat → ℚ) (units_of_placed placed parts)
  have leading := (leadingPlace_spec (units_pos nonzero) unitsInOne_pos).1
  have sixteen : (10 : ℚ) ^ leadingPlace x.units unitsInOne = 10 ^ place * 10 ^ 16 := by
    rw [at17, ← zpow_natCast, ← zpow_add₀ (by norm_num)]
    norm_num
  rw [sixteen, le_div_iff₀ one] at leading
  have scale : 0 < unitsInOne * Nat.pow 10 place.toNat := Nat.mul_pos unitsInOne_pos (Nat.pow_pos (by decide))
  have close := abs_roundQuotient_sub_le scale (x.units * Nat.pow 10 (-place).toNat)
  rw [scaled_eq, div_div] at close
  rw [roundDecimal, parts]
  generalize roundQuotient _ _ = nearest at close ⊢
  have near := abs_rounded_sub_le (mul_pos one tens) (by linarith) close
  rw [mul_comm (unitsInOne : ℚ), ← mul_assoc, ← unitsOfRatio_decimal, units] at near
  have bound : (significand : ℚ) * 2 ^ places ≤ 2 ^ 53 * 2 ^ places :=
    mul_le_mul_of_nonneg_right (by exact_mod_cast less.le) power.le
  obtain ⟨above, below⟩ := abs_le.mp near
  refine roundRatio_eq_of_near (Nat.pow_pos (by decide)) placed less ?_ (fun least => ?_) (parts ▸ finite.le)
  · rw [abs_lt]
    constructor <;> linarith
  · subst least
    push_cast at above ⊢
    linarith

/-! ## The fewest digits -/

theorem cutAt_lt
    (positive : 0 < numerator)
    (denominatorPositive : 0 < denominator)
    (early : leadingPlace numerator denominator - 16 ≤ place) :
    (cutAt numerator denominator place).1 < 10 ^ 17 := by
  have one : (0 : ℚ) < denominator := by exact_mod_cast denominatorPositive
  have whole : ((cutAt numerator denominator place).1 : ℚ) ≤ numerator / denominator / 10 ^ place := by
    rw [← scaled_eq]
    exact Nat.cast_div_le
  have below : (numerator / denominator / 10 ^ place : ℚ) < 10 ^ 17 := by
    rw [div_lt_iff₀ (by positivity), ← zpow_natCast, ← zpow_add₀ (by norm_num)]
    refine (leadingPlace_spec positive denominatorPositive).2.trans_le (zpow_le_zpow_right₀ (by norm_num) ?_)
    push_cast
    omega
  exact_mod_cast whole.trans_lt below

/-- The fewest digits of a finite number other than zero are at most seventeen, and round back to it. -/
theorem shortest_spec
    (nonzero : x.magnitude ≠ 0)
    (finite : x.magnitude < infinityMagnitude) :
    x.shortest.digits ≤ 10 ^ 17 ∧ roundDecimal x.shortest.digits x.shortest.exponent = x.magnitude := by
  have positive := units_pos nonzero
  rw [shortest]
  generalize first : leadingPlace x.units unitsInOne = firstPlace
  have isFound : (((List.range 17).map fun further => firstPlace - Int.ofNat further).findSome?
      (digitsAt? x.magnitude x.units unitsInOne)).isSome := by
    refine List.findSome?_isSome_iff.mpr ⟨firstPlace - 16, List.mem_map.mpr ⟨16, by decide, rfl⟩, ?_⟩
    exact isSome_digitsAt? (roundDecimal_seventeen nonzero finite (by rw [first]))
  obtain ⟨decimal, found⟩ := Option.isSome_iff_exists.mp isFound
  obtain ⟨place, member, there⟩ := List.exists_of_findSome?_eq_some found
  obtain ⟨further, few, rfl⟩ := List.mem_map.mp member
  obtain ⟨-, digits, back⟩ := of_digitsAt? there
  have early : leadingPlace x.units unitsInOne - 16 ≤ firstPlace - Int.ofNat further := by
    have atMost := List.mem_range.mp few
    rw [first, Int.ofNat_eq_natCast]
    omega
  have cut := cutAt_lt positive unitsInOne_pos early
  rw [found, Option.getD_some]
  exact ⟨(digits_strip_le decimal).trans (digits.trans cut), (roundDecimal_congr (value_strip decimal)).trans back⟩

theorem digits_shortest_pos
    (nonzero : x.magnitude ≠ 0)
    (finite : x.magnitude < infinityMagnitude) :
    0 < x.shortest.digits := by
  refine Nat.pos_of_ne_zero fun none => nonzero ?_
  have back := (shortest_spec nonzero finite).2
  rw [none, roundDecimal_zero] at back
  exact back.symm

end Binary64
end Parley
