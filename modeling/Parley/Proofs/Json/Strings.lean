import Mathlib
import Parley.Json.Outline
import Parley.Proofs.Text.Digits

/-!
# Reading written JSON strings

Every character of a written string is read back, be it written as it is, behind a backslash or by its code.
-/

namespace Parley
namespace Json

variable {c meant : Char} {rest behind : List Char}

theorem quoted_quote
    (rest : List Char) :
    quoted ('"' :: rest) = .closed (some []) rest := by
  rw [quoted]
  rfl

theorem quoted_plain
    (notQuote : c ≠ '"')
    (notBackslash : c ≠ '\\')
    (notControl : ¬c.toNat < 0x20) :
    quoted (c :: rest) = (quoted rest).push c := by
  rw [quoted, if_neg notQuote, if_neg notBackslash, if_neg notControl]

theorem quoted_escaped
    (found : escaped rest = .char meant behind) :
    quoted ('\\' :: rest) = (quoted behind).push meant := by
  rw [quoted, if_neg (by decide), if_pos rfl]
  split
  · rename_i read
    cases found.symm.trans read
    rfl
  · rename_i read
    cases found.symm.trans read
  · rename_i read
    cases found.symm.trans read

theorem escaped_letter
    {letter : Char}
    (notCode : letter ≠ 'u')
    (known : unescape? letter = some meant)
    (rest : List Char) :
    escaped (letter :: rest) = .char meant rest := by
  rw [escaped, if_neg notCode, known]

theorem length_controlDigits
    (control : c.toNat < 0x20) :
    (controlDigits c).length = 4 := by
  have short : (Nat.toDigits 16 c.toNat).length ≤ 4 :=
    (Nat.length_toDigits_le_iff (by decide) (by decide)).mpr (by omega)
  rw [controlDigits, List.length_leftpad]
  exact max_eq_left short

theorem le_byteLength
    (text : List Char) :
    text.length ≤ byteLength text := by
  induction text with
  | nil => exact Nat.zero_le _
  | cons c rest inductionHypothesis =>
      have size := c.utf8Size_pos
      rw [List.length_cons, byteLength]
      omega

theorem escaped_controlDigits
    (control : c.toNat < 0x20)
    (rest : List Char) :
    escaped ('u' :: (controlDigits c ++ rest)) = .char c rest := by
  have length := length_controlDigits control
  have enough : ¬byteLength (controlDigits c ++ rest) < 4 := by
    have bytes := le_byteLength (controlDigits c ++ rest)
    rw [List.length_append] at bytes
    omega
  have unit : codeUnit (controlDigits c ++ rest) = .ok (c.toNat, rest) := by
    rw [codeUnit, if_neg enough, List.take_left' length, List.drop_left' length, controlDigits,
      Text.hexNumber?_leftpad_toDigits]
  have notHigh : isHigh c.toNat = false := by simp [isHigh]; omega
  have notLow : isLow c.toNat = false := by simp [isLow]; omega
  rw [escaped, if_pos rfl, unicodeEscape, unit]
  simp only [notHigh, notLow, Char.ofNat_toNat]
  rfl

/-- A written character is read as this character. -/
theorem quoted_escape
    (c : Char)
    (rest : List Char) :
    quoted (escape c ++ rest) = (quoted rest).push c := by
  unfold escape
  split_ifs with quote backslash backspace tab newLine formFeed carriageReturn control
  · subst quote
    exact quoted_escaped (escaped_letter (by decide) rfl rest)
  · subst backslash
    exact quoted_escaped (escaped_letter (by decide) rfl rest)
  · subst backspace
    exact quoted_escaped (escaped_letter (by decide) rfl rest)
  · subst tab
    exact quoted_escaped (escaped_letter (by decide) rfl rest)
  · subst newLine
    exact quoted_escaped (escaped_letter (by decide) rfl rest)
  · subst formFeed
    exact quoted_escaped (escaped_letter (by decide) rfl rest)
  · subst carriageReturn
    exact quoted_escaped (escaped_letter (by decide) rfl rest)
  · exact quoted_escaped (escaped_controlDigits control rest)
  · exact quoted_plain quote backslash control

/-- A written string is read as this string. -/
theorem quoted_flatMap_escape
    (text rest : List Char) :
    quoted (text.flatMap escape ++ '"' :: rest) = .closed (some text) rest := by
  induction text with
  | nil => exact quoted_quote rest
  | cons c text inductionHypothesis =>
      rw [List.flatMap_cons, List.append_assoc, quoted_escape, inductionHypothesis]
      rfl

end Json
end Parley
