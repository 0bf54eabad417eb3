import Mathlib
import Parley.Binary64

/-!
# Rounding to the nearest word

Exact values are counted in units of `2 ^ -1074`.  A ratio that is near to the value of a word is rounded to this word, a
ratio is never far from the value of the word that it is rounded to, and rounding looks at nothing but the value of the
ratio.
-/

namespace Parley
namespace Binary64

variable {numerator denominator quotient places significand magnitude factor : Nat}

/-! ## Quotients -/

theorem abs_roundQuotient_sub_le
    (positive : 0 < denominator)
    (numerator : Nat) :
    |(roundQuotient numerator denominator : ℚ) - numerator / denominator| ≤ 1 / 2 := by
  have whole : (0 : ℚ) < denominator := by exact_mod_cast positive
  have split : (numerator : ℚ) / denominator =
      (numerator / denominator : Nat) + (numerator % denominator : Nat) / denominator := by
    rw [eq_comm, add_div_eq_mul_add_div _ _ whole.ne', mul_comm]
    exact_mod_cast congrArg (fun number : Nat => (number : ℚ) / denominator) (Nat.div_add_mod numerator denominator)
  have rest : ((numerator % denominator : Nat) : ℚ) / denominator < 1 :=
    (div_lt_one whole).mpr (by exact_mod_cast Nat.mod_lt numerator positive)
  have nonnegative : (0 : ℚ) ≤ ((numerator % denominator : Nat) : ℚ) / denominator := by positivity
  rw [split, abs_le, roundQuotient]
  split_ifs with down
  · have small : ((numerator % denominator : Nat) : ℚ) / denominator ≤ 1 / 2 := by
      rw [div_le_div_iff₀ whole two_pos]
      have twice : numerator % denominator * 2 ≤ 1 * denominator := by
        simp only [Bool.or_eq_true, decide_eq_true_eq, Bool.and_eq_true, beq_iff_eq] at down
        omega
      exact_mod_cast twice
    constructor <;> linarith
  · have large : 1 / 2 ≤ ((numerator % denominator : Nat) : ℚ) / denominator := by
      rw [div_le_div_iff₀ two_pos whole]
      have twice : 1 * denominator ≤ numerator % denominator * 2 := by
        simp only [Bool.or_eq_true, decide_eq_true_eq, not_or] at down
        omega
      exact_mod_cast twice
    push_cast
    constructor <;> linarith

/-- The whole number that is less than a half away from a quotient is the rounded one. -/
theorem roundQuotient_eq
    (positive : 0 < denominator)
    (near : |(numerator : ℚ) / denominator - quotient| < 1 / 2) :
    roundQuotient numerator denominator = quotient := by
  have close := abs_roundQuotient_sub_le positive numerator
  rw [abs_le] at close
  rw [abs_lt] at near
  have above : (roundQuotient numerator denominator : ℚ) < quotient + 1 := by linarith
  have below : (quotient : ℚ) < roundQuotient numerator denominator + 1 := by linarith
  have aboveNat : roundQuotient numerator denominator < quotient + 1 := by exact_mod_cast above
  have belowNat : quotient < roundQuotient numerator denominator + 1 := by exact_mod_cast below
  omega

theorem roundQuotient_mul_right
    (positive : 0 < factor)
    (numerator denominator : Nat) :
    roundQuotient (numerator * factor) (denominator * factor) = roundQuotient numerator denominator := by
  have less : 2 * (numerator % denominator * factor) < denominator * factor ↔
      2 * (numerator % denominator) < denominator := by
    rw [← Nat.mul_assoc, Nat.mul_lt_mul_right positive]
  have same : (2 * (numerator % denominator * factor) == denominator * factor) =
      (2 * (numerator % denominator) == denominator) := by
    rw [Bool.eq_iff_iff, beq_iff_eq, beq_iff_eq, ← Nat.mul_assoc, Nat.mul_right_cancel_iff positive]
  simp only [roundQuotient, Nat.mul_div_mul_right _ _ positive, Nat.mul_mod_mul_right, less, same]

/-! ## Ratios -/

/-- The value of a ratio in units. -/
def unitsOfRatio (numerator denominator : Nat) : ℚ := numerator * unitsInOne / denominator

theorem unitsOfRatio_nonneg
    (numerator denominator : Nat) :
    0 ≤ unitsOfRatio numerator denominator :=
  div_nonneg (mul_nonneg (Nat.cast_nonneg _) (Nat.cast_nonneg _)) (Nat.cast_nonneg _)

/-- How many binary places of the value of a ratio, in units, are not kept. -/
def droppedPlaces (numerator denominator : Nat) : Nat := (numerator * unitsInOne / denominator).log2 - 52

/-- What is left of the value of a ratio, in units, after places are dropped. -/
def keptSignificand (numerator denominator places : Nat) : Nat :=
  roundQuotient (numerator * unitsInOne) (denominator * Nat.pow 2 places)

theorem roundRatio_eq
    (numerator denominator : Nat) :
    roundRatio numerator denominator =
      min (droppedPlaces numerator denominator * Nat.pow 2 52 +
        keptSignificand numerator denominator (droppedPlaces numerator denominator)) infinityMagnitude := rfl

/-- Rounding looks at nothing but the value of a ratio. -/
theorem roundRatio_mul_right
    (positive : 0 < factor)
    (numerator denominator : Nat) :
    roundRatio (numerator * factor) (denominator * factor) = roundRatio numerator denominator := by
  have dropped : droppedPlaces (numerator * factor) (denominator * factor) = droppedPlaces numerator denominator := by
    rw [droppedPlaces, Nat.mul_right_comm, Nat.mul_div_mul_right _ _ positive, droppedPlaces]
  have kept (places : Nat) : keptSignificand (numerator * factor) (denominator * factor) places =
      keptSignificand numerator denominator places := by
    rw [keptSignificand, Nat.mul_right_comm numerator, Nat.mul_right_comm denominator,
      roundQuotient_mul_right positive, keptSignificand]
  rw [roundRatio_eq, dropped, kept, roundRatio_eq]

theorem roundRatio_congr
    {otherNumerator otherDenominator : Nat}
    (positive : 0 < denominator)
    (otherPositive : 0 < otherDenominator)
    (same : numerator * otherDenominator = otherNumerator * denominator) :
    roundRatio numerator denominator = roundRatio otherNumerator otherDenominator := by
  rw [← roundRatio_mul_right otherPositive numerator denominator, same, Nat.mul_comm denominator,
    roundRatio_mul_right positive]

theorem abs_keptSignificand_sub_le
    (positive : 0 < denominator)
    (numerator places : Nat) :
    |(keptSignificand numerator denominator places : ℚ) - unitsOfRatio numerator denominator / 2 ^ places| ≤ 1 / 2 := by
  have close := abs_roundQuotient_sub_le (Nat.mul_pos positive (Nat.pow_pos two_pos : 0 < 2 ^ places))
    (numerator * unitsInOne)
  push_cast at close
  rw [← div_div] at close
  exact close

theorem keptSignificand_eq
    (positive : 0 < denominator)
    (near : |unitsOfRatio numerator denominator / 2 ^ places - significand| < 1 / 2) :
    keptSignificand numerator denominator places = significand := by
  refine roundQuotient_eq (Nat.mul_pos positive (Nat.pow_pos two_pos : 0 < 2 ^ places)) ?_
  rw [Nat.pow_eq]
  push_cast
  rwa [← div_div]

/-! ## Dropped places -/

theorem unitsOfRatio_lt_iff
    (positive : 0 < denominator)
    (bound : Nat) :
    unitsOfRatio numerator denominator < bound ↔ numerator * unitsInOne / denominator < bound := by
  rw [unitsOfRatio, div_lt_iff₀ (by exact_mod_cast positive), Nat.div_lt_iff_lt_mul positive]
  exact_mod_cast Iff.rfl

/-- The places that are dropped are as many as are needed, and no more. -/
theorem droppedPlaces_spec
    (positive : 0 < denominator)
    (numerator : Nat) :
    unitsOfRatio numerator denominator < 2 ^ (53 + droppedPlaces numerator denominator) ∧
      (droppedPlaces numerator denominator = 0 ∨
        2 ^ (52 + droppedPlaces numerator denominator) ≤ unitsOfRatio numerator denominator) := by
  generalize whole : numerator * unitsInOne / denominator = units
  have dropped : droppedPlaces numerator denominator = units.log2 - 52 := by rw [droppedPlaces, whole]
  rw [dropped]
  constructor
  · have small : units < 2 ^ (53 + (units.log2 - 52)) :=
      Nat.lt_log2_self.trans_le (Nat.pow_le_pow_right two_pos (by omega))
    exact_mod_cast (unitsOfRatio_lt_iff positive _).mpr (whole.trans_lt small)
  · rcases Nat.le_total units.log2 52 with few | many
    · exact .inl (Nat.sub_eq_zero_of_le few)
    · right
      rw [Nat.add_sub_cancel' many]
      have nonzero : units ≠ 0 := by
        rintro rfl
        exact absurd many (by decide)
      have large : ¬ units < 2 ^ units.log2 := not_lt.mpr (Nat.log2_self_le nonzero)
      rw [← whole, ← unitsOfRatio_lt_iff positive, whole, not_lt] at large
      exact_mod_cast large

theorem droppedPlaces_eq
    (positive : 0 < denominator)
    (small : unitsOfRatio numerator denominator < 2 ^ (53 + places))
    (large : places = 0 ∨ 2 ^ (52 + places) ≤ unitsOfRatio numerator denominator) :
    droppedPlaces numerator denominator = places := by
  have fewer {fewer more : Nat} (small : unitsOfRatio numerator denominator < 2 ^ (53 + fewer))
      (large : more = 0 ∨ 2 ^ (52 + more) ≤ unitsOfRatio numerator denominator) : more ≤ fewer := by
    rcases large with none | large
    · omega
    · have powers : (2 : ℚ) ^ (52 + more) < 2 ^ (53 + fewer) := large.trans_lt small
      have exponents := (pow_lt_pow_iff_right₀ one_lt_two).mp powers
      omega
  obtain ⟨below, above⟩ := droppedPlaces_spec positive numerator
  exact Nat.le_antisymm (fewer small above) (fewer below large)

/-! ## Words and their units -/

/-- A significand of 53 places, or of fewer if no places follow it.  The least one of 54 places is as good as one of 53
places with one more behind it. -/
structure Placed (places significand : Nat) : Prop where
  le : significand ≤ 2 ^ 53
  full : 2 ^ 52 ≤ significand ∨ places = 0

theorem exists_placed
    (magnitude : Nat) :
    ∃ places significand, magnitude = places * 2 ^ 52 + significand ∧ Placed places significand ∧
      significand < 2 ^ 53 := by
  refine ⟨magnitude / 2 ^ 52 - 1, magnitude - (magnitude / 2 ^ 52 - 1) * 2 ^ 52, ?_, ⟨?_, ?_⟩, ?_⟩ <;> omega

/-- A word stands for its significand with the places that follow. -/
theorem units_of_placed
    {x : Binary64}
    (placed : Placed places significand)
    (parts : x.magnitude = places * 2 ^ 52 + significand) :
    x.units = significand * 2 ^ places := by
  have exponent : x.exponentField = places + significand / 2 ^ 52 := by
    rw [exponentField, parts, Nat.pow_eq]
    omega
  have fraction : x.fractionField = significand % 2 ^ 52 := by
    rw [fractionField, parts, Nat.pow_eq]
    omega
  rw [units, exponent, fraction]
  have bound := placed.le
  rcases lt_or_ge significand (2 ^ 52) with small | large
  · have none : places = 0 := placed.full.resolve_left (not_le.mpr small)
    rw [none, Nat.div_eq_of_lt small, Nat.mod_eq_of_lt small]
    simp
  · rcases bound.eq_or_lt with rfl | less
    · rw [if_neg (by omega)]
      simp only [Nat.pow_eq]
      norm_num
      ring
    · have one : significand / 2 ^ 52 = 1 := by omega
      rw [one, if_neg (by omega), Nat.add_sub_cancel]
      simp only [Nat.pow_eq]
      congr 1
      omega

/-- A ratio that is less than half a place away from a significand is rounded to it; below the least significand of 53
places, where places are half as large, it has to be nearer. -/
theorem roundRatio_eq_of_near
    (positive : 0 < denominator)
    (placed : Placed places significand)
    (less : significand < 2 ^ 53)
    (near : |unitsOfRatio numerator denominator - significand * 2 ^ places| < 2 ^ places / 2)
    (nearBelow : significand = 2 ^ 52 → (significand * 2 ^ places : ℚ) - unitsOfRatio numerator denominator < 2 ^ places / 4)
    (finite : places * 2 ^ 52 + significand ≤ infinityMagnitude) :
    roundRatio numerator denominator = places * 2 ^ 52 + significand := by
  have power : (0 : ℚ) < 2 ^ places := by positivity
  have atMost : (significand : ℚ) ≤ 2 ^ 53 - 1 := by
    have integral : significand + 1 ≤ 2 ^ 53 := less
    exact le_sub_iff_add_le.mpr (by exact_mod_cast integral)
  have scaled : significand * (2 : ℚ) ^ places ≤ (2 ^ 53 - 1) * 2 ^ places := mul_le_mul_of_nonneg_right atMost power.le
  obtain ⟨above, below⟩ := abs_lt.mp near
  have small : unitsOfRatio numerator denominator < 2 ^ (53 + places) := by
    rw [pow_add]
    linarith
  rw [roundRatio_eq, Nat.pow_eq]
  by_cases large : places = 0 ∨ 2 ^ (52 + places) ≤ unitsOfRatio numerator denominator
  · have kept : keptSignificand numerator denominator places = significand := by
      refine keptSignificand_eq positive ?_
      rw [div_sub' power.ne', abs_div, abs_of_pos power, div_lt_iff₀ power, mul_comm _ (significand : ℚ), one_div_mul_eq_div]
      exact near
    rw [droppedPlaces_eq positive small large, kept, min_eq_left finite]
  · -- The ratio lies below the least significand of 53 places, with one place less behind it.
    obtain ⟨some, under⟩ := not_or.mp large
    rw [not_le, pow_add] at under
    have least : significand = 2 ^ 52 := by
      have closeTo : (significand : ℚ) < 2 ^ 52 + 1 := by
        rw [← mul_lt_mul_iff_of_pos_right power]
        linarith
      have integral : significand < 2 ^ 52 + 1 := by exact_mod_cast closeTo
      have full : 2 ^ 52 ≤ significand := placed.full.resolve_right some
      omega
    obtain ⟨fewer, rfl⟩ := Nat.exists_eq_succ_of_ne_zero some
    have nearer := nearBelow least
    rw [least] at nearer
    push_cast at nearer
    have half : (0 : ℚ) < 2 ^ fewer := by positivity
    simp only [Nat.succ_eq_add_one, pow_succ (2 : ℚ) fewer] at under nearer
    have dropped : droppedPlaces numerator denominator = fewer := by
      refine droppedPlaces_eq positive ?_ (.inr ?_)
      · rw [pow_add]
        linarith
      · rw [pow_add]
        linarith
    have kept : keptSignificand numerator denominator fewer = 2 ^ 53 := by
      refine keptSignificand_eq positive ?_
      rw [div_sub' half.ne', abs_div, abs_of_pos half, div_lt_iff₀ half, abs_lt]
      push_cast
      constructor <;> linarith
    rw [dropped, kept, least]
    rw [least] at finite
    have same : fewer * 2 ^ 52 + 2 ^ 53 = (fewer + 1) * 2 ^ 52 + 2 ^ 52 := by omega
    rw [same, min_eq_left finite]

/-! ## How far a ratio is from its word -/

theorem placed_keptSignificand
    (positive : 0 < denominator)
    (numerator : Nat) :
    Placed (droppedPlaces numerator denominator)
      (keptSignificand numerator denominator (droppedPlaces numerator denominator)) := by
  obtain ⟨small, large⟩ := droppedPlaces_spec positive numerator
  have close := abs_keptSignificand_sub_le positive numerator (droppedPlaces numerator denominator)
  generalize droppedPlaces numerator denominator = places at *
  generalize keptSignificand numerator denominator places = significand at *
  have power : (0 : ℚ) < 2 ^ places := by positivity
  obtain ⟨below, above⟩ := abs_le.mp close
  constructor
  · have bound : unitsOfRatio numerator denominator / 2 ^ places < 2 ^ 53 := by
      rwa [div_lt_iff₀ power, ← pow_add]
    have closeTo : (significand : ℚ) < 2 ^ 53 + 1 := by linarith
    have integral : significand < 2 ^ 53 + 1 := by exact_mod_cast closeTo
    omega
  · refine large.symm.imp_left fun full => ?_
    have bound : 2 ^ 52 ≤ unitsOfRatio numerator denominator / 2 ^ places := by
      rwa [le_div_iff₀ power, ← pow_add]
    have closeTo : (2 ^ 52 : ℚ) < significand + 1 := by linarith
    have integral : 2 ^ 52 < significand + 1 := by exact_mod_cast closeTo
    omega

/-- A ratio is rounded to a word whose value is at most half a place away, unless it is out of range. -/
theorem roundRatio_spec
    (positive : 0 < denominator)
    (finite : roundRatio numerator denominator < infinityMagnitude) :
    ∃ places significand, roundRatio numerator denominator = places * 2 ^ 52 + significand ∧
      Placed places significand ∧
        |significand * 2 ^ places - unitsOfRatio numerator denominator| ≤ 2 ^ places / 2 ∧
          (places = 0 ∨ 2 ^ (52 + places) ≤ unitsOfRatio numerator denominator) := by
  refine ⟨_, _, ?_, placed_keptSignificand positive numerator, ?_, (droppedPlaces_spec positive numerator).2⟩
  · rw [roundRatio_eq, Nat.pow_eq] at finite ⊢
    exact min_eq_left (min_lt_iff.mp finite |>.resolve_right (lt_irrefl _)).le
  · have power : (0 : ℚ) < 2 ^ droppedPlaces numerator denominator := by positivity
    have close := abs_keptSignificand_sub_le positive numerator (droppedPlaces numerator denominator)
    rw [sub_div' power.ne', abs_div, abs_of_pos power, div_le_div_iff₀ power two_pos] at close
    linarith

/-! ## The bounds of the range -/

/-- The greatest value of a word, and half a place more, in units. -/
def unitsBound : ℚ := (2 ^ 54 - 1) * 2 ^ 2044

theorem unitsBound_lt : unitsBound < 2 ^ 2098 := by
  rw [unitsBound, show 2098 = 54 + 2044 from rfl, pow_add]
  exact mul_lt_mul_of_pos_right (by norm_num) (by positivity)

theorem roundRatio_lt_infinityMagnitude
    (positive : 0 < denominator)
    (small : unitsOfRatio numerator denominator < unitsBound) :
    roundRatio numerator denominator < infinityMagnitude := by
  have large := (droppedPlaces_spec positive numerator).2
  have bound := (placed_keptSignificand positive numerator).le
  have close := abs_keptSignificand_sub_le positive numerator (droppedPlaces numerator denominator)
  rw [roundRatio_eq]
  generalize droppedPlaces numerator denominator = places at *
  refine (min_le_left _ _).trans_lt ?_
  rw [infinityMagnitude, Nat.pow_eq]
  have few : places ≤ 2045 := by
    rcases large with none | large
    · omega
    · have powers : (2 : ℚ) ^ (52 + places) < 2 ^ 2098 :=
        large.trans_lt (small.trans unitsBound_lt)
      have exponents := (pow_lt_pow_iff_right₀ one_lt_two).mp powers
      omega
  rcases few.eq_or_lt with rfl | fewer
  · have power : (0 : ℚ) < 2 ^ 2045 := by positivity
    have quotient : unitsOfRatio numerator denominator / 2 ^ 2045 < 2 ^ 53 - 1 / 2 := by
      rw [div_lt_iff₀ power]
      refine small.trans_eq ?_
      rw [unitsBound, pow_succ (2 : ℚ) 2044]
      generalize (2 : ℚ) ^ 2044 = half
      ring
    have closeTo : (keptSignificand numerator denominator 2045 : ℚ) < 2 ^ 53 := by
      generalize unitsOfRatio numerator denominator / 2 ^ 2045 = scaled at close quotient
      linarith [(abs_le.mp close).2]
    have integral : keptSignificand numerator denominator 2045 < 2 ^ 53 := by exact_mod_cast closeTo
    omega
  · omega

theorem roundRatio_eq_infinityMagnitude
    (positive : 0 < denominator)
    (large : 2 ^ 2098 ≤ unitsOfRatio numerator denominator) :
    roundRatio numerator denominator = infinityMagnitude := by
  have powers := large.trans_lt (droppedPlaces_spec positive numerator).1
  have exponents := (pow_lt_pow_iff_right₀ one_lt_two).mp powers
  have full := (placed_keptSignificand positive numerator).full
  rw [roundRatio_eq]
  refine min_eq_right ?_
  rw [infinityMagnitude, Nat.pow_eq]
  omega

theorem roundRatio_eq_zero
    (positive : 0 < denominator)
    (small : unitsOfRatio numerator denominator < 1 / 2) :
    roundRatio numerator denominator = 0 := by
  have nonnegative := unitsOfRatio_nonneg numerator denominator
  have placed : Placed 0 0 := ⟨by decide, .inr rfl⟩
  refine roundRatio_eq_of_near positive placed (by decide) ?_ (fun large => absurd large (by decide)) (by decide)
  simpa [abs_of_nonneg nonnegative] using small

/-! ## Words -/

theorem magnitude_ofSign
    (negative : Bool)
    (small : magnitude < 2 ^ 63) :
    (ofSign negative magnitude).magnitude = magnitude := by
  cases negative <;> simp [ofSign, Binary64.magnitude] <;> omega

theorem ofSign_magnitude
    (x : Binary64) :
    ofSign x.isNegative x.magnitude = x := by
  obtain ⟨bits⟩ := x
  have bound := bits.toNat_lt
  simp only [ofSign, isNegative, magnitude, Binary64.mk.injEq, ← UInt64.toNat_inj, UInt64.toNat_ofNat', Nat.pow_eq]
  by_cases high : 2 ^ 63 ≤ bits.toNat
  · simp only [high, decide_true, if_true]
    omega
  · simp only [high, decide_false, Bool.false_eq_true, if_false]
    omega

/-- A ratio of at least `2 ^ 53` units is rounded to no more than a part in `2 ^ 53` above it. -/
theorem units_ofSign_roundRatio_le
    (positive : 0 < denominator)
    (finite : roundRatio numerator denominator < infinityMagnitude)
    (large : 2 ^ 53 ≤ unitsOfRatio numerator denominator)
    (negative : Bool) :
    ((ofSign negative (roundRatio numerator denominator)).units : ℚ) ≤
      unitsOfRatio numerator denominator * (1 + 1 / 2 ^ 53) := by
  obtain ⟨places, significand, parts, placed, close, full⟩ := roundRatio_spec positive finite
  have small : roundRatio numerator denominator < 2 ^ 63 := finite.trans (by decide)
  have units := units_of_placed placed ((magnitude_ofSign negative small).trans parts)
  have half : (2 : ℚ) ^ places / 2 * 2 ^ 53 ≤ unitsOfRatio numerator denominator := by
    rcases full with rfl | full
    · linarith
    · rw [pow_add] at full
      linarith
  rw [units]
  push_cast
  linarith [(abs_le.mp close).2]

end Binary64
end Parley
