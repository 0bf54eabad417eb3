import Mathlib
import Parley.Proofs.Binary64.Positional
import Parley.Proofs.Binary64.Range
import Parley.Proofs.Ron.Scalars

/-!
# Reading the floating-point numbers of RON

A written floating-point number is read as this number.  All words that stand for no number are written in the same way, and
one of them is read.
-/

namespace Parley
namespace Ron

open Binary64 (Decimal roundDecimal unitsInOne unitsOfRatio_decimal)
open Text (StopsAt stopsAt_nil stopsAt_cons_iff takeWhile_run dropWhile_run)

variable {rest whole fraction : List Char} {decimal : Decimal} {x : Binary64}

/-! ## Numbers out of range -/

/-- Looking at the place of the first digit before rounding changes nothing. -/
theorem roundScaled_eq
    (digits : Nat)
    (exponent : Int) :
    roundScaled digits exponent = roundDecimal digits exponent := by
  have denominator : 0 < Nat.pow 10 (-exponent).toNat := Nat.pow_pos (by decide)
  rw [roundScaled]
  split_ifs with small large
  · rw [Bool.or_eq_true, decide_eq_true_eq, decide_eq_true_eq] at small
    rcases small with rfl | small
    · exact (Binary64.roundDecimal_zero exponent).symm
    · refine (Binary64.roundRatio_eq_zero denominator ?_).symm
      rw [unitsOfRatio_decimal, Binary64.cast_unitsInOne]
      exact Binary64.decimal_lt_half_unit small
  · refine (Binary64.roundRatio_eq_infinityMagnitude denominator ?_).symm
    rw [unitsOfRatio_decimal, Binary64.cast_unitsInOne]
    rw [Bool.or_eq_true, decide_eq_true_eq, decide_eq_true_eq, not_or] at small
    exact Binary64.range_le_decimal (Nat.pos_of_ne_zero small.1) large
  · rfl

/-! ## Written digits -/

theorem decimalText_spelled
    (decimal : Decimal) :
    ∃ whole fraction, decimalText decimal = whole ++ '.' :: fraction ∧ decimal.SpelledBy whole fraction := by
  rw [decimalText]
  split_ifs with large positive
  · exact ⟨_, _, rfl, Decimal.spelledBy_large large⟩
  · exact ⟨_, _, rfl, Decimal.spelledBy_among positive (by omega)⟩
  · exact ⟨['0'], _, rfl, Decimal.spelledBy_small (not_lt.mp positive)⟩

/-- A finite number is written with a sign, digits, a point and digits, which round back to it. -/
theorem floatText_spelled
    (finite : x.magnitude < Binary64.infinityMagnitude) :
    ∃ (decimal : Decimal) (whole fraction : List Char), decimal.SpelledBy whole fraction ∧
      roundDecimal decimal.digits decimal.exponent = x.magnitude ∧
        floatText x = (if x.isNegative then ['-'] else []) ++ (whole ++ '.' :: fraction) := by
  have isNumber : x.isNaN = false := decide_eq_false (not_lt.mpr finite.le)
  have notInfinite : x.isInfinite = false := beq_eq_false_iff_ne.mpr finite.ne
  rw [floatText, isNumber, notInfinite]
  by_cases zero : x.magnitude = 0
  · refine ⟨⟨0, 0⟩, ['0'], ['0'], ?_, ?_, ?_⟩
    · exact ⟨nofun, List.forall_mem_singleton.mpr rfl, List.forall_mem_singleton.mpr rfl, by norm_num [Nat.ofDigitChars]⟩
    · rw [zero, Binary64.roundDecimal_zero]
    · simp [Binary64.isZero, zero]
  · obtain ⟨whole, fraction, written, spelled⟩ := decimalText_spelled x.shortest
    refine ⟨x.shortest, whole, fraction, spelled, (Binary64.shortest_spec zero finite).2, ?_⟩
    simp [Binary64.isZero, zero, written]

/-- Digits with a point are read as the word nearest to what they stand for. -/
theorem magnitude?_spelled
    (spelled : decimal.SpelledBy whole fraction) :
    magnitude? (whole ++ '.' :: fraction) = some (roundDecimal decimal.digits decimal.exponent) := by
  have point : StopsAt Char.isDigit ('.' :: fraction) := stopsAt_cons_iff.mpr (by decide)
  have behind : fraction.takeWhile Char.isDigit = fraction ∧ fraction.dropWhile Char.isDigit = [] := by
    rw [← List.append_nil fraction, takeWhile_run spelled.fraction_digits stopsAt_nil,
      dropWhile_run spelled.fraction_digits stopsAt_nil, List.append_nil]
    exact ⟨rfl, rfl⟩
  have some : whole.isEmpty = false := List.isEmpty_eq_false_iff.mpr spelled.whole_ne_nil
  rw [magnitude?, takeWhile_run spelled.whole_digits point, dropWhile_run spelled.whole_digits point]
  simp only [behind, some, Bool.false_and, Bool.false_eq_true, if_false, exponent?, Option.map_some, zero_sub,
    roundScaled_eq]
  rw [Binary64.roundDecimal_congr spelled.value]

theorem isFloatChar_of_spelled
    (spelled : decimal.SpelledBy whole fraction) :
    ∀ c ∈ whole ++ '.' :: fraction, isFloatChar c = true :=
  List.forall_mem_append.mpr ⟨fun c member => isFloatChar_of_isDigit (spelled.whole_digits c member),
    List.forall_mem_cons.mpr ⟨by decide, fun c member => isFloatChar_of_isDigit (spelled.fraction_digits c member)⟩⟩

theorem float?_spelled
    (spelled : decimal.SpelledBy whole fraction)
    (negative : Bool) :
    float? ((if negative then ['-'] else []) ++ (whole ++ '.' :: fraction)) =
      some (.ofSign negative (roundDecimal decimal.digits decimal.exponent)) := by
  cases negative with
  | true => exact congrArg (Option.map (Binary64.ofSign true)) (magnitude?_spelled spelled)
  | false =>
      obtain ⟨first, further, rfl⟩ := List.exists_cons_of_ne_nil spelled.whole_ne_nil
      have digit : first.isDigit = true := spelled.whole_digits first List.mem_cons_self
      have other {sign : Char} (noDigit : sign.isDigit = false) (behind : List Char) :
          first :: further ++ '.' :: fraction = sign :: behind → False := by
        intro same
        rw [(List.cons.inj same).1, noDigit] at digit
        cases digit
      rw [if_neg (by decide), List.nil_append, float?, magnitude?_spelled spelled, Option.map_some]
      · exact other (by decide)
      · exact other (by decide)

/-! ## Whole texts of numbers -/

theorem floatWords_eq :
    floatWords = [(['i', 'n', 'f'], .infinity), (['+', 'i', 'n', 'f'], .infinity), (['-', 'i', 'n', 'f'], .negate .infinity),
      (['N', 'a', 'N'], .notANumber), (['+', 'N', 'a', 'N'], .notANumber), (['-', 'N', 'a', 'N'], .notANumber)] := by
  rfl

/-- Neither a digit nor a digit behind a minus begins a word. -/
theorem no_floatWord
    {first : Char}
    (digit : first.isDigit = true)
    (negative : Bool)
    (behind : List Char) :
    floatWords.findSome? (fun (word, value) =>
      (wholeWord? word ((if negative then ['-'] else []) ++ first :: behind)).map fun rest => (value, rest.1)) = none := by
  have other {letter : Char} (noDigit : letter.isDigit = false) : letter ≠ first := by
    rintro rfl
    cases digit.symm.trans noDigit
  have i : 'i' ≠ first := other (by decide)
  have n : 'N' ≠ first := other (by decide)
  have plus : '+' ≠ first := other (by decide)
  have minus : '-' ≠ first := other (by decide)
  rw [floatWords_eq]
  cases negative <;> simp [wholeWord?, i, n, plus, minus]

theorem unsigned_sign
    {first : Char}
    (digit : first.isDigit = true)
    (negative : Bool)
    (behind : List Char) :
    unsigned ((if negative then ['-'] else []) ++ first :: behind) = first :: behind := by
  have other {sign : Char} (noDigit : sign.isDigit = false) : first ≠ sign := by
    rintro rfl
    cases digit.symm.trans noDigit
  cases negative with
  | true => rfl
  | false =>
      rw [if_neg (by decide), List.nil_append, unsigned]
      · exact fun _ minus => other (by decide) (List.cons.inj minus).1
      · exact fun _ plus => other (by decide) (List.cons.inj plus).1

/-- Digits with a point go on longer than a whole number does. -/
theorem looksFloat_spelled
    (spelled : decimal.SpelledBy whole fraction)
    (negative : Bool)
    (stops : StopsAt isRawNameChar rest) :
    looksFloat ((if negative then ['-'] else []) ++ (whole ++ '.' :: fraction) ++ rest) = true := by
  have ints : ((whole ++ '.' :: fraction) ++ rest).takeWhile isIntChar = whole := by
    rw [List.append_assoc, List.cons_append]
    exact takeWhile_run (fun c member => isIntChar_of_isDigit (spelled.whole_digits c member))
      (stopsAt_cons_iff.mpr (by decide))
  have floats : ((whole ++ '.' :: fraction) ++ rest).takeWhile isFloatChar = whole ++ '.' :: fraction :=
    takeWhile_run (isFloatChar_of_spelled spelled) (stopsAt_of_raw isRawNameChar_of_isFloatChar stops)
  have same : unsigned ((if negative then ['-'] else []) ++ (whole ++ '.' :: fraction) ++ rest) =
      (whole ++ '.' :: fraction) ++ rest := by
    obtain ⟨first, further, rfl⟩ := List.exists_cons_of_ne_nil spelled.whole_ne_nil
    rw [List.append_assoc]
    exact unsigned_sign (spelled.whole_digits first List.mem_cons_self) negative _
  rw [looksFloat, same, ints, floats, decide_eq_true_eq, List.length_append, List.length_cons]
  omega

theorem number?_finite
    (finite : x.magnitude < Binary64.infinityMagnitude)
    (stops : StopsAt isRawNameChar rest) :
    ∃ behind, number? (floatText x ++ rest) = some (.float x, behind) ∧ behind.1 = rest := by
  obtain ⟨decimal, whole, fraction, spelled, back, written⟩ := floatText_spelled finite
  have looks : looksFloat (floatText x ++ rest) = true := by
    rw [written]
    exact looksFloat_spelled spelled x.isNegative stops
  have text : ∀ c ∈ floatText x, isFloatChar c = true := by
    rw [written, List.forall_mem_append]
    refine ⟨?_, isFloatChar_of_spelled spelled⟩
    split_ifs
    · exact List.forall_mem_singleton.mpr (by decide)
    · exact List.forall_mem_nil _
  have noWord : floatWords.findSome? (fun (word, value) =>
      (wholeWord? word (floatText x ++ rest)).map fun rest => (value, rest.1)) = none := by
    obtain ⟨first, further, rfl⟩ := List.exists_cons_of_ne_nil spelled.whole_ne_nil
    rw [written, List.append_assoc]
    exact no_floatWord (spelled.whole_digits first List.mem_cons_self) x.isNegative _
  have number : float? (floatText x) = some x := by
    rw [written, float?_spelled spelled, back, Binary64.ofSign_magnitude]
  have float : floatValue? (floatText x ++ rest) = some (.float x, rest) := by
    have floatStops : StopsAt isFloatChar rest := stopsAt_of_raw isRawNameChar_of_isFloatChar stops
    rw [floatValue?, noWord, takeWhile_run text floatStops, dropWhile_run text floatStops, number]
    rfl
  have shorter : rest.length < (floatText x ++ rest).length := by
    rw [written, List.length_append, List.length_append, List.length_append, List.length_cons]
    omega
  refine ⟨⟨rest, shorter⟩, ?_, rfl⟩
  rw [number?, looks, if_pos rfl, float]
  simp only [Option.bind_some, partOf?, dif_pos shorter]

/-- The negative infinity is read as a number, since it begins with a minus. -/
theorem number?_negative_infinity
    (stops : StopsAt isRawNameChar rest) :
    ∃ behind, number? (['-', 'i', 'n', 'f'] ++ rest) = some (.float (.negate .infinity), behind) ∧ behind.1 = rest := by
  have nameStops : rest.head?.any isNameChar = false := by
    cases rest with
    | nil => rfl
    | cons c behind => exact isNameChar_of_not_raw (stopsAt_cons_iff.mp stops)
  have float : floatValue? (['-', 'i', 'n', 'f'] ++ rest) = some (.float (.negate .infinity), rest) := by
    rw [floatValue?, floatWords_eq]
    simp [wholeWord?, nameStops, Text.Remainder.widen]
  have looks : looksFloat (['-', 'i', 'n', 'f'] ++ rest) = false := rfl
  have noInt : int? (['-', 'i', 'n', 'f'] ++ rest) = none := rfl
  have shorter : rest.length < (['-', 'i', 'n', 'f'] ++ rest).length := by
    simp only [List.length_append, List.length_cons]
    omega
  refine ⟨⟨rest, shorter⟩, ?_, rfl⟩
  rw [number?, looks, noInt, float]
  simp only [Bool.false_eq_true, if_false, Option.none_or, Option.bind_some, partOf?, dif_pos shorter]

theorem exists_floatText_eq_cons
    (finite : x.magnitude < Binary64.infinityMagnitude) :
    ∃ first further, floatText x = first :: further ∧ (first.isDigit = true ∨ first = '-') := by
  obtain ⟨decimal, whole, fraction, spelled, -, written⟩ := floatText_spelled finite
  obtain ⟨first, further, rfl⟩ := List.exists_cons_of_ne_nil spelled.whole_ne_nil
  rw [written]
  split_ifs
  · exact ⟨_, _, rfl, .inr rfl⟩
  · exact ⟨_, _, rfl, .inl (spelled.whole_digits first List.mem_cons_self)⟩

/-- A word is written as no number, as one of the infinities, or as a finite number. -/
theorem floatText_cases
    (x : Binary64) :
    (x.isNaN = true ∧ floatText x = ['N', 'a', 'N']) ∨
      (x = .infinity ∧ floatText x = ['i', 'n', 'f']) ∨
        (x = .negate .infinity ∧ floatText x = ['-', 'i', 'n', 'f']) ∨ x.magnitude < Binary64.infinityMagnitude := by
  rcases lt_trichotomy x.magnitude Binary64.infinityMagnitude with finite | infinite | isNaN
  · exact .inr (.inr (.inr finite))
  · have same := Binary64.ofSign_magnitude x
    have isNumber : x.isNaN = false := decide_eq_false (not_lt.mpr infinite.le)
    have isInfinite : x.isInfinite = true := beq_iff_eq.mpr infinite
    rw [infinite] at same
    cases negative : x.isNegative with
    | false =>
        rw [negative] at same
        exact .inr (.inl ⟨same.symm, by rw [floatText, isNumber, isInfinite, negative]; rfl⟩)
    | true =>
        have negated : Binary64.ofSign true Binary64.infinityMagnitude = .negate .infinity := by decide
        rw [negative, negated] at same
        exact .inr (.inr (.inl ⟨same.symm, by rw [floatText, isNumber, isInfinite, negative]; rfl⟩))
  · left
    have none : x.isNaN = true := decide_eq_true isNaN
    exact ⟨none, by rw [floatText, if_pos none]⟩

end Ron
end Parley
