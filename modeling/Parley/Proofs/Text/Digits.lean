import Mathlib
import Parley.Text.Hexadecimal

/-!
# Numbers and their digits

The digits of a number in any base up to sixteen stand for it, also behind zeros.
-/

namespace Parley
namespace Text

variable {base number value : Nat}

theorem hexValue?_digitChar
    (small : value < 16) :
    hexValue? (Nat.digitChar value) = some value := by
  have all : ∀ value < 16, hexValue? (Nat.digitChar value) = some value := by decide
  exact all value small

/-- The values of the digits of a number, each of them below the base, add up to the number. -/
theorem mapM_hexValue?_toDigits
    (proper : 1 < base)
    (small : base ≤ 16)
    (number : Nat) :
    ∃ values, (Nat.toDigits base number).mapM hexValue? = some values ∧
      (∀ value ∈ values, value < base) ∧ values.foldl (fun sum value => base * sum + value) 0 = number := by
  induction number using Nat.strong_induction_on with
  | _ number inductionHypothesis =>
      rw [Nat.toDigits_eq_if proper]
      split_ifs with single
      · exact ⟨[number], by simp [hexValue?_digitChar (single.trans_le small)], by simpa using single, by simp⟩
      · have shorter : number / base < number := Nat.div_lt_self (by omega) proper
        obtain ⟨values, front, bounded, sum⟩ := inductionHypothesis _ shorter
        have last : number % base < base := Nat.mod_lt _ (by omega)
        refine ⟨values ++ [number % base], ?_, ?_, ?_⟩
        · simp [List.mapM_append, front, hexValue?_digitChar (last.trans_le small)]
        · intro value member
          rcases List.mem_append.mp member with inFront | isLast
          · exact bounded value inFront
          · exact List.mem_singleton.mp isLast ▸ last
        · rw [List.foldl_append, sum]
          exact Nat.div_add_mod number base

theorem exists_of_mem_toDigits
    {c : Char}
    (proper : 1 < base)
    (member : c ∈ Nat.toDigits base number) :
    ∃ value < base, c = Nat.digitChar value := by
  induction number using Nat.strong_induction_on with
  | _ number inductionHypothesis =>
      rw [Nat.toDigits_eq_if proper] at member
      split_ifs at member with single
      · exact ⟨number, single, List.mem_singleton.mp member⟩
      · rcases List.mem_append.mp member with front | last
        · exact inductionHypothesis _ (Nat.div_lt_self (by omega) proper) front
        · exact ⟨number % base, Nat.mod_lt _ (by omega), List.mem_singleton.mp last⟩

theorem hexNumber?_toDigits
    (number : Nat) :
    hexNumber? (Nat.toDigits 16 number) = some number := by
  obtain ⟨values, read, _, sum⟩ := mapM_hexValue?_toDigits (by decide) (le_refl 16) number
  rw [hexNumber?, read, Option.map_some, sum]

theorem hexNumber?_zero_cons
    (digits : List Char) :
    hexNumber? ('0' :: digits) = hexNumber? digits := by
  have zero : hexValue? '0' = some 0 := by decide
  rw [hexNumber?, hexNumber?, List.mapM_cons, zero]
  cases digits.mapM hexValue? <;> rfl

/-- Zeros in front of hexadecimal digits do not count. -/
theorem hexNumber?_leftpad_toDigits
    (width number : Nat) :
    hexNumber? (List.leftpad width '0' (Nat.toDigits 16 number)) = some number := by
  rw [List.leftpad]
  induction width - (Nat.toDigits 16 number).length with
  | zero => exact hexNumber?_toDigits number
  | succ zeros inductionHypothesis => rw [List.replicate_succ, List.cons_append, hexNumber?_zero_cons, inductionHypothesis]

theorem isDigit_toDigits
    (number : Nat) :
    ∀ c ∈ Nat.toDigits 10 number, c.isDigit = true := fun _ member =>
  Nat.isDigit_of_mem_toDigits (by decide) (by decide) member

theorem exists_toDigits_eq_cons
    (number : Nat) :
    ∃ first further, Nat.toDigits 10 number = first :: further ∧ first.isDigit = true := by
  obtain ⟨first, further, front⟩ := List.exists_cons_of_ne_nil (Nat.toDigits_ne_nil (b := 10) (n := number))
  exact ⟨first, further, front, isDigit_toDigits number first (front ▸ List.mem_cons_self)⟩

/-- The text of a number does not begin with anything but a digit. -/
theorem toDigits_append_ne_cons
    {c : Char}
    (noDigit : c.isDigit = false)
    (number : Nat)
    (rest behind : List Char) :
    Nat.toDigits 10 number ++ rest ≠ c :: behind := by
  obtain ⟨first, further, front, digit⟩ := exists_toDigits_eq_cons number
  rw [front, List.cons_append]
  rintro same
  rw [(List.cons.inj same).1, noDigit] at digit
  cases digit

theorem ofDigitChars_ten_mono
    (number : Nat)
    (digits : List Char) :
    number ≤ Nat.ofDigitChars 10 digits number := by
  induction digits generalizing number with
  | nil => rw [Nat.ofDigitChars_nil]
  | cons digit rest inductionHypothesis =>
      rw [Nat.ofDigitChars_cons]
      exact le_trans (by omega) (inductionHypothesis _)

/-- Only zero has digits that begin with a zero. -/
theorem eq_zero_of_head?_toDigits
    (zero : (Nat.toDigits 10 number).head? = some '0') :
    number = 0 := by
  induction number using Nat.strong_induction_on with
  | _ number inductionHypothesis =>
      rw [Nat.toDigits_eq_if (by decide)] at zero
      split_ifs at zero with single
      · have all : ∀ value < 10, Nat.digitChar value = '0' → value = 0 := by decide
        exact all number single (Option.some.inj zero)
      · have front : (Nat.toDigits 10 (number / 10)).head? = some '0' := by
          rwa [List.head?_append_of_ne_nil _ Nat.toDigits_ne_nil] at zero
        have small := inductionHypothesis _ (Nat.div_lt_self (by omega) (by decide)) front
        omega

end Text
end Parley
