import Mathlib
import Parley.Proofs.Binary64.Positional
import Parley.Proofs.Binary64.Range
import Parley.Proofs.Json.Numerals

/-!
# Reading the floating-point numbers of JSON

A written floating-point number is read as a floating-point number, though not always as the same one: its digits are
rounded, then the power of ten, and then their product or their quotient.  However, a number that is not out of range is not
taken out of range by that.
-/

namespace Parley
namespace Json
namespace Numeral

open Text (isDigit_toDigits)
open Binary64 (Decimal infinityMagnitude roundDecimal roundNat roundRatio unitsBound unitsInOne unitsOfRatio unitsOfRatio_decimal)

variable {x : Binary64} {decimal : Decimal} {number : Nat}

/-! ## Rounded factors -/

theorem unitsOfRatio_one
    (number : Nat) :
    unitsOfRatio number 1 = number * 2 ^ 1074 := by
  rw [unitsOfRatio, Binary64.cast_unitsInOne, Nat.cast_one, div_one]

/-- A whole number within range is rounded to no more than a part in `2 ^ 53` above it. -/
theorem roundNat_bounds
    {power : Nat}
    (positive : 0 < number)
    (small : number ≤ 10 ^ power)
    (powerSmall : power ≤ 308) :
    roundNat number < infinityMagnitude ∧
      ((Binary64.ofSign false (roundNat number)).units : ℚ) ≤ number * 2 ^ 1074 * (1 + 1 / 2 ^ 53) := by
  have one : (1 : ℚ) ≤ number := by exact_mod_cast positive
  have bound : (number : ℚ) < 18014398509481983 * 2 ^ 970 := by
    have natural : number < 18014398509481983 * 2 ^ 970 :=
      (small.trans (Nat.pow_le_pow_right (by decide) powerSmall)).trans_lt (by decide +kernel)
    exact_mod_cast natural
  have finite : roundNat number < infinityMagnitude := by
    refine Binary64.roundRatio_lt_infinityMagnitude Nat.one_pos ?_
    have significand : (2 : ℚ) ^ 54 - 1 = 18014398509481983 := by norm_num
    have range : (2 ^ 2044 : ℚ) = 2 ^ 970 * 2 ^ 1074 := by rw [← pow_add]
    rw [unitsOfRatio_one, unitsBound, significand, range, ← mul_assoc]
    exact mul_lt_mul_of_pos_right bound (by positivity)
  refine ⟨finite, ?_⟩
  rw [← unitsOfRatio_one]
  refine Binary64.units_ofSign_roundRatio_le Nat.one_pos finite ?_ false
  rw [unitsOfRatio_one]
  refine (pow_le_pow_right₀ one_le_two (by norm_num : 53 ≤ 1074)).trans ?_
  exact le_mul_of_one_le_left (by positivity) one

/-! ## Products within range -/

theorem shortest_congr
    {y : Binary64}
    (same : x.magnitude = y.magnitude) :
    x.shortest = y.shortest := by
  have units : x.units = y.units := by
    rw [Binary64.units, Binary64.exponentField, Binary64.fractionField, same]
    rfl
  rw [Binary64.shortest, units, same]
  rfl

/-- The three greatest numbers are not taken out of range. -/
theorem isSome_scaleUp?_greatest :
    ∀ below ∈ [1, 2, 3],
      (scaleUp? (.ofSign false (roundNat (Binary64.ofSign false (infinityMagnitude - below)).shortest.digits))
        (Binary64.ofSign false (infinityMagnitude - below)).shortest.exponent.toNat).isSome := by
  decide +kernel

/-- The exponent of a number that is not out of range is at most the greatest one that a factor can have. -/
theorem power_le
    {digits power : Nat}
    (positive : 0 < digits)
    (finite : roundDecimal digits power < infinityMagnitude) :
    power ≤ 308 := by
  by_contra great
  refine finite.ne (Binary64.roundRatio_eq_infinityMagnitude (Nat.pow_pos (by decide)) ?_)
  have one : (1 : ℚ) ≤ digits := by exact_mod_cast positive
  have natural : 2 ^ 1024 ≤ 10 ^ 309 := by decide +kernel
  have cast : (2 ^ 1024 : ℚ) ≤ 10 ^ 309 := by exact_mod_cast natural
  rw [unitsOfRatio_decimal, Binary64.cast_unitsInOne, zpow_natCast]
  calc (2 : ℚ) ^ 2098 = 2 ^ 1024 * 2 ^ 1074 := by rw [← pow_add]
    _ ≤ 10 ^ 309 * 2 ^ 1074 := mul_le_mul_of_nonneg_right cast (by positivity)
    _ ≤ digits * 10 ^ power * 2 ^ 1074 := by
        refine mul_le_mul_of_nonneg_right ?_ (by positivity)
        exact (pow_le_pow_right₀ (by norm_num) (by omega)).trans (le_mul_of_one_le_left (by positivity) one)

/-- What rounds to a number below the three greatest ones is far enough from the end of the range. -/
theorem decimal_le
    {digits : Nat}
    {exponent : Int}
    (below : roundDecimal digits exponent + 4 ≤ infinityMagnitude) :
    (digits * 10 ^ exponent * 2 ^ 1074 : ℚ) ≤ (2 ^ 54 - 7) * 2 ^ 2044 := by
  have denominator : 0 < Nat.pow 10 (-exponent).toNat := Nat.pow_pos (by decide)
  have finite : roundDecimal digits exponent < infinityMagnitude := by omega
  obtain ⟨places, significand, parts, placed, close, -⟩ := Binary64.roundRatio_spec denominator finite
  rw [unitsOfRatio_decimal, Binary64.cast_unitsInOne] at close
  rw [roundDecimal, parts, infinityMagnitude, Nat.pow_eq] at below
  have full := placed.full
  have bound := placed.le
  have lower := (abs_le.mp close).1
  generalize (digits * 10 ^ exponent * 2 ^ 1074 : ℚ) = amount at lower ⊢
  have few : places ≤ 2045 := by omega
  rcases few.eq_or_lt with rfl | fewer
  · have less : significand ≤ 9007199254740988 := by omega
    have lessCast : (significand : ℚ) ≤ 9007199254740988 := by exact_mod_cast less
    rw [pow_succ (2 : ℚ) 2044] at lower
    have half : (0 : ℚ) < 2 ^ 2044 := by positivity
    generalize (2 : ℚ) ^ 2044 = half at *
    nlinarith
  · have power : (2 : ℚ) ^ places ≤ 2 ^ 2044 := pow_le_pow_right₀ one_le_two (by omega)
    have boundCast : (significand : ℚ) ≤ 2 ^ 53 := by exact_mod_cast bound
    have positive : (0 : ℚ) < 2 ^ places := by positivity
    generalize (2 : ℚ) ^ 2044 = half at *
    generalize (2 : ℚ) ^ places = size at *
    nlinarith

/-- Two roundings that add no more than a part in `2 ^ 53` each do not reach the end of the range from far enough. -/
theorem product_lt_of_le
    {first second firstRounded secondRounded unit half : ℚ}
    (firstBound : firstRounded ≤ first * unit * (1 + 1 / 2 ^ 53))
    (secondBound : secondRounded ≤ second * unit * (1 + 1 / 2 ^ 53))
    (secondNonneg : 0 ≤ secondRounded)
    (firstPos : 0 < first)
    (unitPos : 0 < unit)
    (halfPos : 0 < half)
    (bounded : first * second * unit ≤ (2 ^ 54 - 7) * half) :
    firstRounded * secondRounded < (2 ^ 54 - 1) * half * unit :=
  calc firstRounded * secondRounded
      ≤ first * unit * (1 + 1 / 2 ^ 53) * (second * unit * (1 + 1 / 2 ^ 53)) :=
        mul_le_mul firstBound secondBound secondNonneg (by positivity)
    _ = first * second * unit * ((1 + 1 / 2 ^ 53) ^ 2 * unit) := by ring
    _ ≤ (2 ^ 54 - 7) * half * ((1 + 1 / 2 ^ 53) ^ 2 * unit) := mul_le_mul_of_nonneg_right bounded (by positivity)
    _ = (2 ^ 54 - 7) * (1 + 1 / 2 ^ 53) ^ 2 * (half * unit) := by ring
    _ < (2 ^ 54 - 1) * (half * unit) := mul_lt_mul_of_pos_right (by norm_num) (mul_pos halfPos unitPos)
    _ = (2 ^ 54 - 1) * half * unit := by ring

/-- Digits and a power of ten that are far enough from the end of the range stay within it when each of them is rounded
before their product is. -/
theorem roundProduct_lt_infinityMagnitude
    {digits power : Nat}
    (positive : 0 < digits)
    (few : digits ≤ 10 ^ 17)
    (powerSmall : power ≤ 308)
    (bounded : (digits * 10 ^ power * 2 ^ 1074 : ℚ) ≤ (2 ^ 54 - 7) * 2 ^ 2044) :
    (Binary64.ofSign false (roundNat digits)).roundProduct (powerOfTen power) < infinityMagnitude := by
  have digitsBound := (roundNat_bounds positive few (by decide)).2
  have powerBound := (roundNat_bounds (Nat.pow_pos (by decide)) (le_refl (10 ^ power)) powerSmall).2
  rw [powerOfTen, Nat.pow_eq]
  refine Binary64.roundRatio_lt_infinityMagnitude (Nat.mul_pos Binary64.unitsInOne_pos Binary64.unitsInOne_pos) ?_
  have unit : (0 : ℚ) < 2 ^ 1074 := by positivity
  rw [unitsOfRatio, unitsBound, Nat.cast_mul, Nat.cast_mul, Binary64.cast_unitsInOne, mul_div_mul_right _ _ unit.ne',
    div_lt_iff₀ unit]
  rw [Nat.cast_pow, Nat.cast_ofNat] at powerBound
  exact product_lt_of_le digitsBound powerBound (Nat.cast_nonneg _) (by exact_mod_cast positive) unit (by positivity)
    bounded

/-- Digits that are scaled up are not taken out of range if they round to a finite number. -/
theorem isSome_scaleUp?
    (nonzero : x.magnitude ≠ 0)
    (finite : x.magnitude < infinityMagnitude)
    (large : 0 ≤ x.shortest.exponent) :
    (scaleUp? (.ofSign false (roundNat x.shortest.digits)) x.shortest.exponent.toNat).isSome := by
  rcases Nat.lt_or_ge (x.magnitude + 3) infinityMagnitude with below | above
  · obtain ⟨few, back⟩ := Binary64.shortest_spec nonzero finite
    have positive := Binary64.digits_shortest_pos nonzero finite
    obtain ⟨power, same⟩ := Int.eq_ofNat_of_zero_le large
    rw [same] at back ⊢
    have powerSmall := power_le positive (back.trans_lt finite)
    have bounded : (x.shortest.digits * 10 ^ (power : Int) * 2 ^ 1074 : ℚ) ≤ (2 ^ 54 - 7) * 2 ^ 2044 :=
      decimal_le (by omega)
    rw [zpow_natCast] at bounded
    have inRange := roundProduct_lt_infinityMagnitude positive few powerSmall bounded
    have notInfinite : (Binary64.ofSign false
        ((Binary64.ofSign false (roundNat x.shortest.digits)).roundProduct (powerOfTen power))).isInfinite = false := by
      rw [Binary64.isInfinite, Binary64.magnitude_ofSign false (inRange.trans (by decide)), beq_eq_false_iff_ne]
      exact inRange.ne
    rw [Int.toNat_natCast, scaleUp?, greatestPower, if_pos powerSmall]
    dsimp only
    rw [notInfinite]
    rfl
  · have few : infinityMagnitude - x.magnitude ∈ [1, 2, 3] := by
      rw [List.mem_cons, List.mem_cons, List.mem_singleton]
      omega
    have same : (Binary64.ofSign false (infinityMagnitude - (infinityMagnitude - x.magnitude))).magnitude = x.magnitude := by
      rw [Nat.sub_sub_self finite.le]
      exact Binary64.magnitude_ofSign false (finite.trans (by decide))
    have greatest := isSome_scaleUp?_greatest _ few
    rwa [shortest_congr same] at greatest

/-! ## Numerals that fit a word -/

/-- A number of a word stays within range if it is scaled down. -/
theorem isSome_real?_of_neg
    {exponent : Int}
    (small : exponent < 0)
    (negative : Bool)
    (significand : Nat) :
    (real? negative significand exponent).isSome := by
  rw [real?, if_neg (not_le.mpr small)]
  rfl

/-- The digits of a numeral without its point. -/
def significand (numeral : Numeral) : Nat := Nat.ofDigitChars 10 (numeral.whole ++ numeral.fraction) 0

/-- If the digits fit a word then none of them is dropped. -/
theorem accumulate_parts
    {numeral : Numeral}
    (fits : numeral.significand < wordBound) :
    accumulate 0 numeral.whole = (Nat.ofDigitChars 10 numeral.whole 0, numeral.whole.length) ∧
      accumulate (Nat.ofDigitChars 10 numeral.whole 0) numeral.fraction =
        (numeral.significand, numeral.fraction.length) := by
  rw [significand, Nat.ofDigitChars_append] at fits
  have whole := (Text.ofDigitChars_ten_mono _ numeral.fraction).trans_lt fits
  rw [significand, Nat.ofDigitChars_append]
  exact ⟨accumulate_eq whole, accumulate_eq fits⟩

/-- The digits of a positional numeral are scaled by the places behind its point. -/
theorem value?_positional
    {numeral : Numeral}
    (fits : numeral.significand < wordBound)
    (point : numeral.fraction ≠ [])
    (positional : numeral.exponent = none) :
    numeral.value? =
      (real? numeral.negative numeral.significand (-(numeral.fraction.length : Int))).map .real := by
  obtain ⟨whole, fraction⟩ := accumulate_parts fits
  have isWritten : numeral.fraction.isEmpty = false := List.isEmpty_eq_false_iff.mpr point
  rw [value?, whole]
  dsimp only
  rw [fraction, positional]
  simp [isWritten]

/-- The digits of a scientific numeral are scaled by its exponent as well. -/
theorem value?_scientific
    {numeral : Numeral}
    {written : Exponent}
    (fits : numeral.significand < wordBound)
    (scientific : numeral.exponent = some written)
    (small : Nat.ofDigitChars 10 written.digits 0 ≤ exponentLimit) :
    numeral.value? =
      (real? numeral.negative numeral.significand
        (if written.negative then -(numeral.fraction.length : Int) - Nat.ofDigitChars 10 written.digits 0
          else -(numeral.fraction.length : Int) + Nat.ofDigitChars 10 written.digits 0)).map .real := by
  obtain ⟨whole, fraction⟩ := accumulate_parts fits
  rw [value?, whole]
  dsimp only
  rw [fraction, scientific]
  simp [small]

/-! ## The numerals of numbers -/

/-- The first digit of a number other than zero stays in front, whatever is behind it. -/
theorem head?_front
    {digits : Nat}
    {front : List Char}
    (positive : 0 < digits)
    (nonempty : front ≠ [])
    (begins : front <+: Nat.toDigits 10 digits ∨ Nat.toDigits 10 digits <+: front) :
    front.head? ≠ some '0' := by
  intro zero
  have first : (Nat.toDigits 10 digits).head? = some '0' := by
    rcases begins with ⟨behind, same⟩ | ⟨behind, rfl⟩
    · rwa [← same, List.head?_append_of_ne_nil _ nonempty]
    · rwa [List.head?_append_of_ne_nil _ Nat.toDigits_ne_nil] at zero
  exact positive.ne' (Text.eq_zero_of_head?_toDigits first)

/-- A numeral that gives a decimal number with a point and without an exponent. -/
structure Positional (decimal : Decimal) (numeral : Numeral) : Prop where
  spelled : decimal.SpelledBy numeral.whole numeral.fraction
  whole_of_zero : numeral.whole.head? = some '0' → numeral.whole = ['0']
  point : numeral.fraction ≠ []
  exponent : numeral.exponent = none
  fits : numeral.significand < wordBound

/-- A numeral that gives a decimal number with one digit in front of the point and an exponent. -/
structure Scientific (decimal : Decimal) (numeral : Numeral) : Prop where
  whole : numeral.whole = (Nat.toDigits 10 decimal.digits).take 1
  fraction : numeral.fraction = (Nat.toDigits 10 decimal.digits).drop 1
  exponent : numeral.exponent =
    some ⟨decide (decimal.pointPlace - 1 < 0), Nat.toDigits 10 (decimal.pointPlace - 1).natAbs⟩

theorem positional_or_scientific
    (positive : 0 < decimal.digits)
    (few : decimal.digits ≤ 10 ^ 17)
    (negative : Bool) :
    Positional decimal (ofDecimal negative decimal) ∨ Scientific decimal (ofDecimal negative decimal) := by
  have place : ((Nat.toDigits 10 decimal.digits).length : Int) + decimal.exponent = decimal.pointPlace := rfl
  have word : decimal.digits < wordBound := few.trans_lt (by decide)
  have first {front : List Char} (nonempty : front ≠ [])
      (begins : front <+: Nat.toDigits 10 decimal.digits ∨ Nat.toDigits 10 decimal.digits <+: front)
      (zero : front.head? = some '0') : front = ['0'] := absurd zero (head?_front positive nonempty begins)
  simp only [ofDecimal, place, largestPlain, smallestPlain, Bool.and_eq_true, decide_eq_true_eq]
  split_ifs with large among small
  · have spelled := Decimal.spelledBy_large large.1
    refine .inl ⟨spelled, first spelled.whole_ne_nil (.inr (List.prefix_append _ _)), nofun, rfl, ?_⟩
    obtain ⟨zeros, same⟩ := Int.eq_ofNat_of_zero_le large.1
    have last : ['0'] = List.replicate 1 '0' := rfl
    rw [significand, last, Nat.ofDigitChars_append, Nat.ofDigitChars_append, Nat.ofDigitChars_replicate_zero,
      Nat.ofDigitChars_replicate_zero, Nat.ofDigitChars_ten_toDigits, same, Int.toNat_natCast]
    have short : (Nat.toDigits 10 decimal.digits).length + zeros ≤ 16 := by
      have atMost := large.2
      rw [Decimal.pointPlace, same] at atMost
      omega
    calc 10 ^ 1 * (10 ^ zeros * decimal.digits)
        ≤ 10 ^ 1 * (10 ^ zeros * 10 ^ (Nat.toDigits 10 decimal.digits).length) :=
          Nat.mul_le_mul_left _ (Nat.mul_le_mul_left _ (Binary64.pow_length_toDigits positive).2.le)
      _ = 10 ^ ((Nat.toDigits 10 decimal.digits).length + zeros + 1) := by ring
      _ ≤ 10 ^ 17 := Nat.pow_le_pow_right (by decide) (by omega)
      _ < wordBound := by decide
  · have behind : decimal.exponent < 0 := by omega
    have spelled := Decimal.spelledBy_among among.1 behind.le
    refine .inl ⟨spelled, first spelled.whole_ne_nil (.inl (List.take_prefix _ _)), ?_, rfl, ?_⟩
    · rw [ne_eq, List.drop_eq_nil_iff]
      rw [Decimal.pointPlace] at among ⊢
      omega
    · rwa [significand, List.take_append_drop, Nat.ofDigitChars_ten_toDigits]
  · have spelled := Decimal.spelledBy_small small.1
    refine .inl ⟨spelled, fun _ => rfl, ?_, rfl, ?_⟩
    · exact List.append_ne_nil_of_right_ne_nil _ Nat.toDigits_ne_nil
    · have zero : ['0'] = List.replicate 1 '0' := rfl
      rwa [significand, zero, Nat.ofDigitChars_append, Nat.ofDigitChars_append, Nat.ofDigitChars_replicate_zero,
        Nat.ofDigitChars_replicate_zero, Nat.mul_zero, Nat.ofDigitChars_ten_toDigits]
  · exact .inr ⟨rfl, rfl, rfl⟩

theorem proper_of_positional
    {numeral : Numeral}
    (positional : Positional decimal numeral) :
    numeral.Proper where
  whole_ne_nil := positional.spelled.whole_ne_nil
  whole_digits := positional.spelled.whole_digits
  whole_of_zero := positional.whole_of_zero
  fraction_digits := positional.spelled.fraction_digits
  exponent_ne_nil := by simp [positional.exponent]
  exponent_digits := by simp [positional.exponent]

theorem proper_of_scientific
    {numeral : Numeral}
    (positive : 0 < decimal.digits)
    (scientific : Scientific decimal numeral) :
    numeral.Proper where
  whole_ne_nil := by
    rw [scientific.whole, ne_eq, List.take_eq_nil_iff, not_or]
    exact ⟨by decide, Nat.toDigits_ne_nil⟩
  whole_digits := by
    rw [scientific.whole]
    exact fun c member => isDigit_toDigits _ c (List.mem_of_mem_take member)
  whole_of_zero := by
    intro zero
    rw [scientific.whole, List.head?_take, if_neg (by decide)] at zero
    exact absurd (Text.eq_zero_of_head?_toDigits zero) positive.ne'
  fraction_digits := by
    rw [scientific.fraction]
    exact fun c member => isDigit_toDigits _ c (List.mem_of_mem_drop member)
  exponent_ne_nil := by
    rw [scientific.exponent]
    rintro _ ⟨⟩
    exact Nat.toDigits_ne_nil
  exponent_digits := by
    rw [scientific.exponent]
    rintro _ ⟨⟩
    exact isDigit_toDigits _

/-- A zero is written with a point, like other numbers. -/
theorem positional_zero
    (negative : Bool) :
    Positional ⟨0, 0⟩ { negative, whole := ['0'], fraction := ['0'] } where
  spelled := Decimal.spelledBy_large le_rfl
  whole_of_zero := fun _ => rfl
  point := nofun
  exponent := rfl
  fits := by
    have zero : Nat.ofDigitChars 10 ['0', '0'] 0 < wordBound := by decide
    exact zero

/-- A finite number is written in a way that numerals have. -/
theorem proper_ofBinary64
    (finite : x.magnitude < infinityMagnitude) :
    (ofBinary64 x).Proper := by
  rw [ofBinary64]
  split_ifs with zero
  · exact proper_of_positional (positional_zero x.isNegative)
  · have nonzero : x.magnitude ≠ 0 := by simpa [Binary64.isZero] using zero
    have positive := Binary64.digits_shortest_pos nonzero finite
    rcases positional_or_scientific positive (Binary64.shortest_spec nonzero finite).1 x.isNegative with
      positional | scientific
    · exact proper_of_positional positional
    · exact proper_of_scientific positive scientific

/-! ## The values of numbers -/

theorem exists_value?_of_positional
    {numeral : Numeral}
    (positional : Positional decimal numeral) :
    ∃ y, numeral.value? = some (.real y) := by
  have behind := List.length_pos_of_ne_nil positional.point
  have small : -(numeral.fraction.length : Int) < 0 := by omega
  have read := isSome_real?_of_neg small numeral.negative numeral.significand
  obtain ⟨y, given⟩ := Option.isSome_iff_exists.mp read
  exact ⟨y, by rw [value?_positional positional.fits positional.point positional.exponent, given, Option.map_some]⟩

/-- The point of a number within range stands near to its digits. -/
theorem abs_pointPlace_le
    (nonzero : x.magnitude ≠ 0)
    (finite : x.magnitude < infinityMagnitude) :
    |x.shortest.pointPlace| ≤ 400 := by
  have denominator : 0 < Nat.pow 10 (-x.shortest.exponent).toNat := Nat.pow_pos (by decide)
  have back := (Binary64.shortest_spec nonzero finite).2
  rw [abs_le]
  constructor
  · by_contra small
    refine nonzero (back.symm.trans (Binary64.roundRatio_eq_zero denominator ?_))
    rw [unitsOfRatio_decimal, Binary64.cast_unitsInOne]
    exact Binary64.decimal_lt_half_unit (not_le.mp small)
  · by_contra large
    refine finite.ne (back.symm.trans (Binary64.roundRatio_eq_infinityMagnitude denominator ?_))
    rw [unitsOfRatio_decimal, Binary64.cast_unitsInOne]
    exact Binary64.range_le_decimal (Binary64.digits_shortest_pos nonzero finite) (not_le.mp large)

/-- The exponent of a scientific numeral makes up for the digits behind its point. -/
theorem value?_of_scientific
    {numeral : Numeral}
    (scientific : Scientific decimal numeral)
    (fits : decimal.digits < wordBound)
    (near : |decimal.pointPlace| ≤ 400) :
    numeral.value? = (real? numeral.negative decimal.digits decimal.exponent).map .real := by
  have written : numeral.significand = decimal.digits := by
    rw [significand, scientific.whole, scientific.fraction, List.take_append_drop, Nat.ofDigitChars_ten_toDigits]
  have further : Nat.ofDigitChars 10 (Nat.toDigits 10 (decimal.pointPlace - 1).natAbs) 0 =
      (decimal.pointPlace - 1).natAbs := Nat.ofDigitChars_ten_toDigits
  have small : (decimal.pointPlace - 1).natAbs ≤ exponentLimit := by
    have limit : 401 ≤ exponentLimit := by decide
    rw [abs_le] at near
    exact le_trans (by omega) limit
  have value := value?_scientific (written.trans_lt fits) scientific.exponent (further.le.trans small)
  have exponent : (if decide (decimal.pointPlace - 1 < 0) = true
      then -(numeral.fraction.length : Int) - ((decimal.pointPlace - 1).natAbs : Nat)
      else -(numeral.fraction.length : Int) + ((decimal.pointPlace - 1).natAbs : Nat)) = decimal.exponent := by
    have some := Nat.length_toDigits_pos (b := 10) (n := decimal.digits)
    rw [scientific.fraction, List.length_drop, Decimal.pointPlace]
    split_ifs with negative <;> simp only [decide_eq_true_eq] at negative <;> omega
  rw [value, further, written, exponent]

theorem exists_value?_of_scientific
    {numeral : Numeral}
    (nonzero : x.magnitude ≠ 0)
    (finite : x.magnitude < infinityMagnitude)
    (scientific : Scientific x.shortest numeral) :
    ∃ y, numeral.value? = some (.real y) := by
  have fits : x.shortest.digits < wordBound := (Binary64.shortest_spec nonzero finite).1.trans_lt (by decide)
  have read : (real? numeral.negative x.shortest.digits x.shortest.exponent).isSome := by
    rcases lt_or_ge x.shortest.exponent 0 with down | up
    · exact isSome_real?_of_neg down _ _
    · rw [real?, if_pos up, Option.isSome_map]
      exact isSome_scaleUp? nonzero finite up
  obtain ⟨y, given⟩ := Option.isSome_iff_exists.mp read
  refine ⟨y, ?_⟩
  rw [value?_of_scientific scientific fits (abs_pointPlace_le nonzero finite), given, Option.map_some]

/-- The numeral of a finite number has a floating-point number for its value. -/
theorem exists_value?_ofBinary64
    (finite : x.magnitude < infinityMagnitude) :
    ∃ y, (ofBinary64 x).value? = some (.real y) := by
  rw [ofBinary64]
  split_ifs with zero
  · exact exists_value?_of_positional (positional_zero x.isNegative)
  · have nonzero : x.magnitude ≠ 0 := by simpa [Binary64.isZero] using zero
    have positive := Binary64.digits_shortest_pos nonzero finite
    have few := (Binary64.shortest_spec nonzero finite).1
    rcases positional_or_scientific positive few x.isNegative with positional | scientific
    · exact exists_value?_of_positional positional
    · exact exists_value?_of_scientific nonzero finite scientific

/-- The number that a finite number is read back as. -/
def reread (x : Binary64) : Binary64 :=
  match (ofBinary64 x).value? with
  | some (.real y) => y
  | _ => x

theorem value?_ofBinary64
    (finite : x.magnitude < infinityMagnitude) :
    (ofBinary64 x).value? = some (.real (reread x)) := by
  obtain ⟨y, given⟩ := exists_value?_ofBinary64 finite
  rw [reread, given]

end Numeral
end Json
end Parley
