import Mathlib
import Parley.Identifier
import Parley.Proofs.Text.Digits

/-!
# Legal identifiers and their numbers

A text of digits alone is legal.  It stands for the number that its digits say, whatever zeros are in front, and so does
every identifier that the library makes up.
-/

namespace Parley
namespace Identifier

variable {c : Char} {text : String} {number width : Nat}

/-! ## Words -/

theorem toNat_of_isWordChar
    (ofWord : isWordChar c = true) :
    (48 ≤ c.toNat ∧ c.toNat ≤ 57) ∨ (65 ≤ c.toNat ∧ c.toNat ≤ 90) ∨ (97 ≤ c.toNat ∧ c.toNat ≤ 122) ∨
      c.toNat = 95 := by
  simp only [isWordChar, Char.isAlphanum, Char.isAlpha, Char.isUpper, Char.isLower, Char.isDigit, Bool.or_eq_true,
    Bool.and_eq_true, decide_eq_true_eq, beq_iff_eq, UInt32.le_iff_toNat_le] at ofWord
  rcases ofWord with ((⟨low, high⟩ | ⟨low, high⟩) | ⟨low, high⟩) | rfl
  · exact .inr (.inl ⟨low, high⟩)
  · exact .inr (.inr (.inl ⟨low, high⟩))
  · exact .inl ⟨low, high⟩
  · decide

theorem isWordChar_of_isDigit
    (digit : c.isDigit = true) :
    isWordChar c = true := by
  simp [isWordChar, Char.isAlphanum, digit]

/-- A text of word characters, of which there is at least one. -/
structure IsWord (text : String) : Prop where
  ne_empty : text ≠ ""
  all_wordChar : ∀ c ∈ text.toList, isWordChar c = true

theorem isLegal_iff :
    isLegal text = true ↔ IsWord text ∧ text ∉ reservedWords := by
  simp only [isLegal, Bool.and_eq_true, Bool.not_eq_true', List.all_eq_true, List.contains_eq_mem,
    decide_eq_false_iff_not, String.isEmpty_eq_false_iff]
  exact ⟨fun ⟨⟨nonempty, all⟩, free⟩ => ⟨⟨nonempty, all⟩, free⟩, fun ⟨⟨nonempty, all⟩, free⟩ => ⟨⟨nonempty, all⟩, free⟩⟩

/-- Every reserved word is a word. -/
theorem isWord_of_reserved
    (reserved : text ∈ reservedWords) :
    IsWord text := by
  simp only [reservedWords, List.mem_cons, List.not_mem_nil, or_false] at reserved
  rcases reserved with rfl | rfl | rfl | rfl | rfl | rfl | rfl <;>
    exact ⟨by decide, List.all_eq_true.mp (by decide)⟩

/-- A text of digits alone is legal unless it is empty. -/
theorem isLegal_of_digits
    (nonempty : text ≠ "")
    (digits : ∀ c ∈ text.toList, c.isDigit = true) :
    isLegal text = true := by
  refine isLegal_iff.mpr ⟨⟨nonempty, fun c member => isWordChar_of_isDigit (digits c member)⟩, fun reserved => ?_⟩
  have all := List.all_eq_true.mpr digits
  simp only [reservedWords, List.mem_cons, List.not_mem_nil, or_false] at reserved
  rcases reserved with rfl | rfl | rfl | rfl | rfl | rfl | rfl <;> exact absurd all (by decide)

/-! ## Numbers -/

theorem number?_eq_some_iff :
    number? text = some number ↔
      text ≠ "" ∧ (∀ c ∈ text.toList, c.isDigit = true) ∧ Nat.ofDigitChars 10 text.toList 0 = number ∧
        number < numberBound := by
  have digits_iff : (!text.isEmpty && text.toList.all Char.isDigit) = true ↔
      text ≠ "" ∧ ∀ c ∈ text.toList, c.isDigit = true := by
    simp only [Bool.and_eq_true, Bool.not_eq_true', List.all_eq_true, String.isEmpty_eq_false_iff]
  unfold number?
  dsimp only
  split_ifs with digits small
  · rw [Option.some.injEq]
    constructor
    · rintro rfl
      exact ⟨(digits_iff.mp digits).1, (digits_iff.mp digits).2, rfl, small⟩
    · exact fun stands => stands.2.2.1
  · refine iff_of_false nofun ?_
    rintro ⟨_, _, rfl, fits⟩
    exact small fits
  · refine iff_of_false nofun ?_
    rintro ⟨nonempty, all, _⟩
    exact digits (digits_iff.mpr ⟨nonempty, all⟩)

theorem toList_ofNumber
    (number width : Nat) :
    (ofNumber number width).toList =
      List.replicate (width - (Nat.toDigits 10 number).length) '0' ++ Nat.toDigits 10 number := by
  rw [ofNumber, String.toList_ofList, List.leftpad]

theorem ofNumber_ne_empty
    (number width : Nat) :
    ofNumber number width ≠ "" := by
  rw [ofNumber, List.leftpad, Ne, String.ofList_eq_empty_iff]
  exact List.append_ne_nil_of_right_ne_nil _ Nat.toDigits_ne_nil

theorem isDigit_ofNumber
    (number width : Nat) :
    ∀ c ∈ (ofNumber number width).toList, c.isDigit = true := by
  intro c member
  rw [toList_ofNumber, List.mem_append] at member
  rcases member with padding | digit
  · rw [List.eq_of_mem_replicate padding]
    rfl
  · exact Text.isDigit_toDigits number _ digit

theorem isLegal_ofNumber
    (number width : Nat) :
    isLegal (ofNumber number width) :=
  isLegal_of_digits (ofNumber_ne_empty number width) (isDigit_ofNumber number width)

/-- The digits of an identifier that the library makes up say its number. -/
theorem ofDigitChars_ofNumber
    (number width : Nat) :
    Nat.ofDigitChars 10 (ofNumber number width).toList 0 = number := by
  rw [toList_ofNumber, Nat.ofDigitChars_append, Nat.ofDigitChars_replicate_zero, Nat.mul_zero,
    Nat.ofDigitChars_ten_toDigits]

theorem number?_ofNumber
    (small : number < numberBound)
    (width : Nat) :
    number? (ofNumber number width) = some number :=
  number?_eq_some_iff.mpr
    ⟨ofNumber_ne_empty number width, isDigit_ofNumber number width, ofDigitChars_ofNumber number width, small⟩

end Identifier
end Parley
