import Mathlib
import Parley.Proofs.Identifier

/-!
# Numbers and their spellings

Decimal digits stand for a number, each for its own multiple of a power of ten.  Two spellings stand for the same number
just if they differ only in the zeros in front, and spellings of one length are ordered as their numbers are.  The
identifiers that the library makes up are of one length as long as their numbers have no more digits than the places that
are filled up, so tables hold them in the order of their numbers.
-/

namespace Parley
namespace Identifier

variable {c : Char} {digits left right : List Char}

/-! ## The value of decimal digits -/

/-- The number that a decimal digit stands for by itself. -/
def digitValue (c : Char) : Nat := c.toNat - '0'.toNat

/-- The number that decimal digits stand for, the last of them being the one for units. -/
def decimalValue (digits : List Char) : Nat := Nat.ofDigits 10 (digits.reverse.map digitValue)

/-- Decimal digits without the zeros in front. -/
def withoutLeadingZeros (digits : List Char) : List Char := digits.dropWhile (· == '0')

theorem toNat_of_isDigit
    (digit : c.isDigit = true) :
    48 ≤ c.toNat ∧ c.toNat ≤ 57 := by
  simpa [Char.isDigit, UInt32.le_iff_toNat_le] using digit

theorem digitValue_lt
    (digit : c.isDigit = true) :
    digitValue c < 10 := by
  have bounds := toNat_of_isDigit digit
  have zero : '0'.toNat = 48 := rfl
  rw [digitValue, zero]
  omega

/-- A digit is known by its value. -/
theorem digitChar_digitValue
    (digit : c.isDigit = true) :
    Nat.digitChar (digitValue c) = c := by
  obtain ⟨low, high⟩ := toNat_of_isDigit digit
  have all : ∀ code ≤ 57, 48 ≤ code → Nat.digitChar (code - 48) = Char.ofNat code := by decide
  exact (all c.toNat high low).trans (Char.ofNat_toNat c)

/-- Digits are ordered as their values are. -/
theorem lt_iff_digitValue_lt
    {first second : Char}
    (firstDigit : first.isDigit = true)
    (secondDigit : second.isDigit = true) :
    first < second ↔ digitValue first < digitValue second := by
  have firstBounds := toNat_of_isDigit firstDigit
  have secondBounds := toNat_of_isDigit secondDigit
  have codes : first < second ↔ first.toNat < second.toNat := Char.lt_def.trans UInt32.lt_iff_toNat_lt
  have zero : '0'.toNat = 48 := rfl
  rw [codes, digitValue, digitValue, zero]
  omega

theorem ofDigitChars_eq_decimalValue
    (digits : List Char) :
    Nat.ofDigitChars 10 digits 0 = decimalValue digits := by
  induction digits using List.reverseRecOn with
  | nil => rfl
  | append_singleton front last inductionHypothesis =>
      rw [Nat.ofDigitChars_append, Nat.ofDigitChars_cons, Nat.ofDigitChars_nil, inductionHypothesis, decimalValue,
        decimalValue, List.reverse_append, List.reverse_singleton, List.singleton_append, List.map_cons,
        Nat.ofDigits_cons, Nat.add_comm]
      rfl

theorem decimalValue_cons
    (c : Char)
    (digits : List Char) :
    decimalValue (c :: digits) = digitValue c * 10 ^ digits.length + decimalValue digits := by
  rw [decimalValue, List.reverse_cons, List.map_append, Nat.ofDigits_append, List.map_singleton, Nat.ofDigits_singleton,
    List.length_map, List.length_reverse, decimalValue]
  ring

theorem decimalValue_lt
    (all : ∀ c ∈ digits, c.isDigit = true) :
    decimalValue digits < 10 ^ digits.length := by
  have bound := Nat.ofDigits_lt_base_pow_length (b := 10) (l := digits.reverse.map digitValue) (by decide) ?_
  · rwa [List.length_map, List.length_reverse] at bound
  · intro value member
    obtain ⟨c, inDigits, rfl⟩ := List.mem_map.mp member
    exact digitValue_lt (all c (List.mem_reverse.mp inDigits))

/-! ## Zeros in front -/

theorem decimalValue_withoutLeadingZeros
    (digits : List Char) :
    decimalValue (withoutLeadingZeros digits) = decimalValue digits := by
  induction digits with
  | nil => rfl
  | cons c rest inductionHypothesis =>
      rw [withoutLeadingZeros, List.dropWhile_cons]
      split_ifs with zero
      · have noValue : digitValue c = 0 := by
          rw [beq_iff_eq.mp zero]
          rfl
        rw [decimalValue_cons, noValue, Nat.zero_mul, Nat.zero_add]
        exact inductionHypothesis
      · rfl

/-- Behind the zeros in front there are just the digits of the number. -/
theorem withoutLeadingZeros_eq
    (all : ∀ c ∈ digits, c.isDigit = true) :
    withoutLeadingZeros digits = (Nat.digits 10 (decimalValue digits)).reverse.map Nat.digitChar := by
  have allKept : ∀ c ∈ withoutLeadingZeros digits, c.isDigit = true := fun c member =>
    all c ((List.dropWhile_sublist _).subset member)
  have values : Nat.digits 10 (decimalValue (withoutLeadingZeros digits)) =
      (withoutLeadingZeros digits).reverse.map digitValue := by
    refine Nat.digits_ofDigits 10 (by decide) _ ?_ ?_
    · intro value member
      obtain ⟨c, inDigits, rfl⟩ := List.mem_map.mp member
      exact digitValue_lt (allKept c (List.mem_reverse.mp inDigits))
    · intro nonempty leadingZero
      -- The last value is that of the first digit, which is no zero.
      have front : withoutLeadingZeros digits ≠ [] := by simpa using nonempty
      have stops : (withoutLeadingZeros digits).head front ≠ '0' := by
        have noZero := List.head_dropWhile_not (· == '0') front
        rwa [beq_eq_false_iff_ne] at noZero
      rw [List.getLast_map, List.getLast_reverse] at leadingZero
      refine stops ?_
      rw [← digitChar_digitValue (allKept _ (List.head_mem front)), leadingZero]
      rfl
  rw [← decimalValue_withoutLeadingZeros, values, ← List.map_reverse, List.reverse_reverse, List.map_map]
  exact (List.map_congr_left fun c member => digitChar_digitValue (allKept c member)).trans (List.map_id _) |>.symm

/-- Digits stand for the same number just if they differ only in the zeros in front. -/
theorem decimalValue_eq_iff
    (allLeft : ∀ c ∈ left, c.isDigit = true)
    (allRight : ∀ c ∈ right, c.isDigit = true) :
    decimalValue left = decimalValue right ↔ withoutLeadingZeros left = withoutLeadingZeros right := by
  constructor
  · intro same
    rw [withoutLeadingZeros_eq allLeft, withoutLeadingZeros_eq allRight, same]
  · intro same
    rw [← decimalValue_withoutLeadingZeros left, same, decimalValue_withoutLeadingZeros]

/-! ## Order -/

/-- Of two spellings of one length the one in front is that of the smaller number. -/
theorem lt_iff_decimalValue_lt
    (allLeft : ∀ c ∈ left, c.isDigit = true)
    (allRight : ∀ c ∈ right, c.isDigit = true)
    (sameLength : left.length = right.length) :
    left < right ↔ decimalValue left < decimalValue right := by
  induction left generalizing right with
  | nil =>
      rw [List.length_eq_zero_iff.mp sameLength.symm]
      exact iff_of_false (List.lt_irrefl _) (Nat.lt_irrefl _)
  | cons first rest inductionHypothesis =>
      cases right with
      | nil => cases sameLength
      | cons second further =>
          obtain ⟨firstDigit, allRest⟩ := List.forall_mem_cons.mp allLeft
          obtain ⟨secondDigit, allFurther⟩ := List.forall_mem_cons.mp allRight
          have restLength : rest.length = further.length := Nat.succ.inj sameLength
          have restLt := decimalValue_lt allRest
          have furtherLt := decimalValue_lt allFurther
          rw [restLength] at restLt
          rw [List.cons_lt_cons_iff, inductionHypothesis allRest allFurther restLength,
            lt_iff_digitValue_lt firstDigit secondDigit, decimalValue_cons, decimalValue_cons, restLength]
          -- What is behind the first digits weighs less than a difference of one between them.
          rcases Nat.lt_trichotomy (digitValue first) (digitValue second) with less | equal | greater
          · have weight := Nat.mul_le_mul_right (10 ^ further.length) less
            rw [Nat.succ_mul] at weight
            exact iff_of_true (.inl less) (by omega)
          · have same : first = second := by
              rw [← digitChar_digitValue firstDigit, equal, digitChar_digitValue secondDigit]
            rw [equal, Nat.add_lt_add_iff_left]
            simp [same]
          · have weight := Nat.mul_le_mul_right (10 ^ further.length) greater
            rw [Nat.succ_mul] at weight
            refine iff_of_false ?_ (by omega)
            rintro (less | ⟨rfl, _⟩)
            · omega
            · exact Nat.lt_irrefl _ greater

/-! ## Bytes -/

/-- The bytes of a text in UTF-8. -/
def bytes (text : String) : List UInt8 := text.toUTF8.data.toList

theorem bytes_eq_flatMap
    (text : String) :
    bytes text = text.toList.flatMap String.utf8EncodeChar := by
  rw [bytes, String.toUTF8_eq_toByteArray, ← String.utf8Encode_toList, List.utf8Encode, List.data_toByteArray]

/-- A digit is one byte. -/
theorem utf8EncodeChar_of_isDigit
    (digit : c.isDigit = true) :
    String.utf8EncodeChar c = [c.toUInt8] := by
  have bounds := toNat_of_isDigit digit
  refine String.utf8EncodeChar_eq_singleton (Char.utf8Size_eq_one_iff.mpr ?_)
  rw [UInt32.le_iff_toNat_le]
  exact bounds.2.trans (by decide)

theorem toNat_toUInt8
    (digit : c.isDigit = true) :
    c.toUInt8.toNat = c.toNat := by
  have bounds := toNat_of_isDigit digit
  rw [Char.toUInt8, UInt32.toNat_toUInt8]
  exact Nat.mod_eq_of_lt (by change c.toNat < 256; omega)

/-- The bytes of digits are ordered as the digits are. -/
theorem flatMap_utf8EncodeChar_lt_iff
    (allLeft : ∀ c ∈ left, c.isDigit = true)
    (allRight : ∀ c ∈ right, c.isDigit = true) :
    left.flatMap String.utf8EncodeChar < right.flatMap String.utf8EncodeChar ↔ left < right := by
  induction left generalizing right with
  | nil =>
      cases right with
      | nil => exact iff_of_false (List.lt_irrefl _) (List.lt_irrefl _)
      | cons second further =>
          rw [List.flatMap_cons, utf8EncodeChar_of_isDigit (List.forall_mem_cons.mp allRight).1]
          exact iff_of_true (List.nil_lt_cons _ _) (List.nil_lt_cons _ _)
  | cons first rest inductionHypothesis =>
      obtain ⟨firstDigit, allRest⟩ := List.forall_mem_cons.mp allLeft
      cases right with
      | nil => exact iff_of_false (List.not_lt_nil _) (List.not_lt_nil _)
      | cons second further =>
          obtain ⟨secondDigit, allFurther⟩ := List.forall_mem_cons.mp allRight
          have sameByte : first.toUInt8 = second.toUInt8 ↔ first = second := by
            rw [← UInt8.toNat_inj, toNat_toUInt8 firstDigit, toNat_toUInt8 secondDigit, Char.toNat_inj]
          have lowerByte : first.toUInt8 < second.toUInt8 ↔ first < second := by
            rw [UInt8.lt_iff_toNat_lt, toNat_toUInt8 firstDigit, toNat_toUInt8 secondDigit]
            exact Iff.rfl
          rw [List.flatMap_cons, List.flatMap_cons, utf8EncodeChar_of_isDigit firstDigit,
            utf8EncodeChar_of_isDigit secondDigit, List.singleton_append, List.singleton_append,
            List.cons_lt_cons_iff, List.cons_lt_cons_iff, sameByte, lowerByte, inductionHypothesis allRest allFurther]

/-! ## Identifiers of the library's own -/

variable {number other width : Nat}

/-- A number that fits into the places to fill up is spelled with just these places. -/
theorem length_ofNumber
    (places : 0 < width)
    (fits : number < 10 ^ width) :
    (ofNumber number width).toList.length = width := by
  have short := (Nat.length_toDigits_le_iff (by decide) places).mpr fits
  rw [toList_ofNumber, List.length_append, List.length_replicate, Nat.sub_add_cancel short]

theorem decimalValue_ofNumber
    (number width : Nat) :
    decimalValue (ofNumber number width).toList = number :=
  (ofDigitChars_eq_decimalValue _).symm.trans (ofDigitChars_ofNumber number width)

/-- Among numbers that fit into the places to fill up, identifiers are ordered as their numbers are. -/
theorem ofNumber_lt_iff
    (fits : number < 10 ^ width)
    (otherFits : other < 10 ^ width) :
    ofNumber number width < ofNumber other width ↔ number < other := by
  rcases Nat.eq_zero_or_pos width with rfl | places
  · -- Without places to fill up there is only the number zero.
    rw [Nat.lt_one_iff.mp fits, Nat.lt_one_iff.mp otherFits]
    exact iff_of_false (String.lt_irrefl _) (Nat.lt_irrefl _)
  · have sameLength := (length_ofNumber places fits).trans (length_ofNumber places otherFits).symm
    rw [String.lt_iff, lt_iff_decimalValue_lt (isDigit_ofNumber _ _) (isDigit_ofNumber _ _) sameLength,
      decimalValue_ofNumber, decimalValue_ofNumber]

theorem bytes_ofNumber_lt_iff :
    bytes (ofNumber number width) < bytes (ofNumber other width) ↔ ofNumber number width < ofNumber other width := by
  rw [bytes_eq_flatMap, bytes_eq_flatMap,
    flatMap_utf8EncodeChar_lt_iff (isDigit_ofNumber _ _) (isDigit_ofNumber _ _), String.lt_iff]

/-- A text of ASCII digits, of which there is at least one. -/
structure IsNumeral (text : String) : Prop where
  ne_empty : text ≠ ""
  all_digit : ∀ c ∈ text.toList, c.isDigit = true

/-- A text has a number just if it is a numeral with a value below the bound, and then the number is the value. -/
theorem number?_eq_some_iff_isNumeral
    {text : String} :
    number? text = some number ↔ IsNumeral text ∧ decimalValue text.toList = number ∧ number < 2 ^ 64 := by
  rw [number?_eq_some_iff, ofDigitChars_eq_decimalValue]
  constructor
  · rintro ⟨nonempty, all, value, small⟩
    exact ⟨⟨nonempty, all⟩, value, small⟩
  · rintro ⟨⟨nonempty, all⟩, value, small⟩
    exact ⟨nonempty, all, value, small⟩

/-- Every number below the bound is read back from the identifier that the library makes up for it, whatever places are filled
up.  A text has a number just if it is a numeral whose value is below the bound, however many zeros are in front, and this
is the number; two numerals have one value just if they agree behind the zeros in front.  Identifiers of numbers that fit into
the places to fill up are ordered as the numbers are, as texts and byte by byte. -/
theorem spelling_of_numbers :
    (∀ number < 2 ^ 64, ∀ width, number? (ofNumber number width) = some number) ∧
    (∀ text number, number? text = some number ↔
      IsNumeral text ∧ decimalValue text.toList = number ∧ number < 2 ^ 64) ∧
    (∀ left right, IsNumeral left → IsNumeral right →
      (decimalValue left.toList = decimalValue right.toList ↔
        withoutLeadingZeros left.toList = withoutLeadingZeros right.toList)) ∧
    ∀ width, ∀ number < 10 ^ width, ∀ other < 10 ^ width,
      (bytes (ofNumber number width) < bytes (ofNumber other width) ↔ number < other) ∧
        (ofNumber number width < ofNumber other width ↔ number < other) := by
  refine ⟨fun number small width => number?_ofNumber small width, fun _ _ => number?_eq_some_iff_isNumeral,
    fun left right isLeft isRight => decimalValue_eq_iff isLeft.all_digit isRight.all_digit,
    fun width number fits other otherFits => ?_⟩
  have ordered := ofNumber_lt_iff fits otherFits
  exact ⟨bytes_ofNumber_lt_iff.trans ordered, ordered⟩

theorem isNumeral_of_toList
    {text : String}
    (nonempty : text.toList ≠ [])
    (all : text.toList.all Char.isDigit = true) :
    IsNumeral text :=
  ⟨mt String.toList_eq_nil_iff.mpr nonempty, List.all_eq_true.mp all⟩

/-- The greatest number that a text can have keeps it behind zeros; nine and ten are in order with two places. -/
theorem spelling_of_greatest :
    18446744073709551615 < 2 ^ 64 ∧
      number? (ofNumber 18446744073709551615 24) = some 18446744073709551615 ∧
      (decimalValue "0017".toList = decimalValue "17".toList ↔
        withoutLeadingZeros "0017".toList = withoutLeadingZeros "17".toList) ∧
      (9 < 10 ^ 2 ∧ 10 < 10 ^ 2) ∧ (bytes (ofNumber 9 2) < bytes (ofNumber 10 2) ↔ 9 < 10) := by
  obtain ⟨read, _, sameValue, ordered⟩ := spelling_of_numbers
  exact ⟨by decide, read _ (by decide) 24,
    sameValue "0017" "17" (isNumeral_of_toList (by decide) (by decide)) (isNumeral_of_toList (by decide) (by decide)),
    ⟨by decide, by decide⟩, (ordered 2 9 (by decide) 10 (by decide)).1⟩

end Identifier
end Parley
