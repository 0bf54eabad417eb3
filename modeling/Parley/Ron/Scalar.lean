import Parley.Ron.Basic
import Parley.Text.Hexadecimal
import Parley.Text.Rest

/-!
# The smallest parts of a RON text

Blanks and comments may stand between any two parts of a value.  The parts themselves are names, numbers, characters and
strings, each of which has more than one spelling.
-/

namespace Parley
namespace Ron

open Text (Remainder Rest hexValue? hexNumber? skipWhile)

/-! ## Blanks and comments -/

/-- The characters that may stand between the parts of a value. -/
def isBlank (c : Char) : Bool := c == ' ' || c == '\n' || c == '\t' || c == '\r'

/-- Go past the end of a comment that is inside so many others. -/
def commentEnd : (outer : Nat) → (text : List Char) → Option (Remainder text)
  | _, [] => none
  | outer, '/' :: '*' :: rest => (commentEnd (outer + 1) rest).map (·.widen (by simp; omega))
  | 0, '*' :: '/' :: rest => some ⟨rest, by simp; omega⟩
  | outer + 1, '*' :: '/' :: rest => (commentEnd outer rest).map (·.widen (by simp; omega))
  | outer, _ :: rest => (commentEnd outer rest).map (·.widen (by simp))

/-- Go past blanks and comments, unless a comment is not closed. -/
def skipBlank (text : List Char) : Option (Remainder text) :=
  match text with
  | [] => some ⟨[], Nat.le_refl 0⟩
  | '/' :: '/' :: rest =>
    match skipWhile (· != '\n') rest with
    | ⟨line, le⟩ => (skipBlank line).map (·.widen (by simp; omega))
  | '/' :: '*' :: rest =>
    match commentEnd 0 rest with
    | none => none
    | some ⟨behind, le⟩ => (skipBlank behind).map (·.widen (by simp; omega))
  | c :: rest =>
    if isBlank c then (skipBlank rest).map (·.widen (by simp))
    else if c = '/' then none
    else some ⟨c :: rest, Nat.le_refl _⟩
termination_by text.length
decreasing_by all_goals simp; try omega

/-- Go past blanks and comments, and see the character that follows them. -/
def nextChar (text : List Char) : Option (Char × Rest text) :=
  match skipBlank text with
  | some ⟨c :: rest, shorter⟩ => some (c, ⟨rest, shorter⟩)
  | _ => none

/-- Go past blanks, comments and one character. -/
def expect (c : Char) (text : List Char) : Option (Rest text) :=
  match nextChar text with
  | some (d, rest) => if c = d then some rest else none
  | none => none

/-! ## Names -/

/-- The characters that a name begins with. -/
def isNameStart (c : Char) : Bool := c.isAlpha || c == '_'

/-- The characters of a name. -/
def isNameChar (c : Char) : Bool := c.isAlphanum || c == '_'

/-- The characters of a name that is marked as raw. -/
def isRawNameChar (c : Char) : Bool := isNameChar c || c == '.' || c == '+' || c == '-'

/-- A name, whether it is marked as raw, and what follows it. -/
abbrev Name (text : List Char) := Bool × List Char × Rest text

/-- Read a name.  It is no name if it could only go on as a raw one, or if a raw string begins here. -/
def name? (text : List Char) : Option (Name text) :=
  match text with
  | 'r' :: '#' :: c :: rest =>
    if isRawNameChar c then
      some (true, c :: rest.takeWhile isRawNameChar, (skipWhile isRawNameChar rest).within (by simp; omega))
    else none
  | ['r', '#'] => none
  | 'r' :: '"' :: _ => none
  | c :: rest =>
    if isNameStart c && !(rest.dropWhile isNameChar).head?.any isRawNameChar then
      some (false, c :: rest.takeWhile isNameChar, (skipWhile isNameChar rest).within (by simp))
    else none
  | [] => none

/-- Go past a word that is not the beginning of a longer one. -/
def wholeWord? : (word text : List Char) → Option (Remainder text)
  | [], text => if text.head?.any isNameChar then none else some ⟨text, Nat.le_refl _⟩
  | _ :: _, [] => none
  | c :: word, d :: text =>
    if c = d then (wholeWord? word text).map (·.widen (by simp)) else none

/-! ## Numbers -/

/-- The characters that a whole number may be written with, in any base. -/
def isIntChar (c : Char) : Bool := (hexValue? c).isSome || c == '_'

/-- The characters that any other number may be written with. -/
def isFloatChar (c : Char) : Bool :=
  c.isDigit || c == 'e' || c == 'E' || c == '.' || c == '+' || c == '-' || c == '_'

/-- The base that a number announces, and its digits. -/
def baseOf : List Char → Nat × List Char
  | '0' :: 'x' :: rest => (16, rest)
  | '0' :: 'b' :: rest => (2, rest)
  | '0' :: 'o' :: rest => (8, rest)
  | text => (10, text)

/-- The number that digits of a base stand for.  Underscores between them do not count. -/
def natOfDigits? (base : Nat) (number : Nat) : List Char → Option Nat
  | [] => some number
  | c :: rest =>
    if c = '_' then natOfDigits? base number rest
    else
      match hexValue? c with
      | some digit => if digit < base then natOfDigits? base (base * number + digit) rest else none
      | none => none

/-- Read a whole number behind its sign, if it has so many bits. -/
def unsignedInt? (bound : Nat) (text : List Char) : Option (Nat × List Char) :=
  let (base, digits) := baseOf text
  let written := digits.takeWhile isIntChar
  if written.isEmpty || written.head? == some '_' then none
  else
    match natOfDigits? base 0 written with
    | some number => if number < bound then some (number, digits.dropWhile isIntChar) else none
    | none => none

/-- Read a whole number of 64 bits. -/
def int? : List Char → Option (Ron × List Char)
  | '-' :: rest => (unsignedInt? (Nat.pow 2 63 + 1) rest).map fun (number, behind) => (.int true (-number), behind)
  | '+' :: rest => (unsignedInt? (Nat.pow 2 63) rest).map fun (number, behind) => (.int true number, behind)
  | text => (unsignedInt? (Nat.pow 2 64) text).map fun (number, behind) => (.int false number, behind)

/-- The magnitude nearest to decimal digits that are scaled by a power of ten. -/
def roundScaled (digits : Nat) (exponent : Int) : Nat :=
  let place : Int := (Nat.toDigits 10 digits).length + exponent
  if digits = 0 || place < -400 then 0
  else if 400 < place then Binary64.infinityMagnitude
  else Binary64.roundDecimal digits exponent

/-- The exponent at the end of a number. -/
def exponent? : List Char → Option Int
  | [] => some 0
  | e :: rest =>
    if e = 'e' || e = 'E' then
      let (negative, digits) := match rest with
        | '-' :: digits => (true, digits)
        | '+' :: digits => (false, digits)
        | digits => (false, digits)
      if digits.isEmpty || !digits.all Char.isDigit then none
      else
        let number : Int := Nat.ofDigitChars 10 digits 0
        some (if negative then -number else number)
    else none

/-- The magnitude of a decimal number without sign: digits with or without a point, and an exponent. -/
def magnitude? (text : List Char) : Option Nat :=
  let whole := text.takeWhile Char.isDigit
  let behindWhole := text.dropWhile Char.isDigit
  let (fraction, behind) := match behindWhole with
    | '.' :: rest => (rest.takeWhile Char.isDigit, rest.dropWhile Char.isDigit)
    | rest => ([], rest)
  if whole.isEmpty && fraction.isEmpty then none
  else (exponent? behind).map fun exponent =>
    roundScaled (Nat.ofDigitChars 10 (whole ++ fraction) 0) (exponent - fraction.length)

/-- The floating-point number that a text stands for. -/
def float? : List Char → Option Binary64
  | '-' :: rest => (magnitude? rest).map (.ofSign true)
  | '+' :: rest => (magnitude? rest).map (.ofSign false)
  | text => (magnitude? text).map (.ofSign false)

/-- The words that stand for floating-point numbers. -/
def floatWords : List (List Char × Binary64) :=
  [("inf".toList, .infinity), ("+inf".toList, .infinity), ("-inf".toList, .negate .infinity),
    ("NaN".toList, .notANumber), ("+NaN".toList, .notANumber), ("-NaN".toList, .notANumber)]

/-- Read a floating-point number, be it a word or digits. -/
def floatValue? (text : List Char) : Option (Ron × List Char) :=
  match floatWords.findSome? (fun (word, value) => (wholeWord? word text).map fun rest => (value, rest.1)) with
  | some (value, rest) => some (.float value, rest)
  | none => (float? (text.takeWhile isFloatChar)).map fun value => (.float value, text.dropWhile isFloatChar)

/-- The text without a sign at its front. -/
def unsigned : List Char → List Char
  | '-' :: rest => rest
  | '+' :: rest => rest
  | text => text

/-- Whether a number goes on longer as a floating-point number than as a whole one. -/
def looksFloat (text : List Char) : Bool :=
  ((unsigned text).takeWhile isIntChar).length < ((unsigned text).takeWhile isFloatChar).length

/-- What was read of a text, if that is a part of it. -/
def partOf? (text : List Char) (found : Ron × List Char) : Option (Ron × Rest text) :=
  if shorter : found.2.length < text.length then some (found.1, ⟨found.2, shorter⟩) else none

/-- Read a number.  A whole number of too many bits is a floating-point number. -/
def number? (text : List Char) : Option (Ron × Rest text) :=
  (if looksFloat text then floatValue? text else (int? text).or (floatValue? text)).bind (partOf? text)

/-! ## Characters and strings -/

/-- The character that a letter behind a backslash stands for. -/
def unescape? : Char → Option Char
  | '\'' => some '\''
  | '"' => some '"'
  | '\\' => some '\\'
  | 'n' => some '\n'
  | 'r' => some '\r'
  | 't' => some '\t'
  | '0' => some '\x00'
  | _ => none

/-- The character of a code point. -/
def charOf? (code : Nat) : Option Char := if code.isValidChar then some (Char.ofNat code) else none

/-- Read what follows a backslash. -/
def escaped? : (text : List Char) → Option (Char × Rest text)
  | [] => none
  | 'x' :: high :: low :: rest =>
    ((hexNumber? [high, low]).bind charOf?).map fun c => (c, ⟨rest, by simp; omega⟩)
  | 'u' :: '\x7b' :: rest =>
    let digits := rest.takeWhile (· != '\x7d')
    match skipWhile (· != '\x7d') rest with
    | ⟨_ :: behind, le⟩ =>
      if digits.isEmpty || 6 < digits.length then none
      else ((hexNumber? digits).bind charOf?).map fun c => (c, ⟨behind, by simp at le ⊢; omega⟩)
    | ⟨[], _⟩ => none
  | c :: rest => (unescape? c).map fun meant => (meant, ⟨rest, by simp⟩)

/-- Read a string from behind its opening quote. -/
def string? (text : List Char) : Option (List Char × Rest text) :=
  match text with
  | [] => none
  | c :: rest =>
    if c = '"' then some ([], ⟨rest, by simp⟩)
    else if c = '\\' then
      match escaped? rest with
      | some (meant, ⟨behind, lt⟩) =>
        (string? behind).map fun (content, further) => (meant :: content, further.widen (by simp; omega))
      | none => none
    else
      (string? rest).map fun (content, further) => (c :: content, further.widen (by simp))
termination_by text.length
decreasing_by all_goals simp_all; try omega

/-- Read a raw string up to an ending. -/
def rawString? (ending : List Char) : (text : List Char) → Option (List Char × Remainder text)
  | [] => none
  | c :: rest =>
    if ending.isPrefixOf (c :: rest) then some ([], ⟨(c :: rest).drop ending.length, by simp⟩)
    else (rawString? ending rest).map fun (content, behind) => (c :: content, behind.widen (by simp))

/-- Read a raw string from behind its letter. -/
def rawQuoted? (text : List Char) : Option (List Char × Remainder text) :=
  match skipWhile (· == '#') text with
  | ⟨'"' :: rest, le⟩ =>
    (rawString? ('"' :: text.takeWhile (· == '#')) rest).map fun (content, behind) =>
      (content, behind.widen (by simp at le; omega))
  | _ => none

/-- Read a character from behind its opening quote. -/
def char? : (text : List Char) → Option (Char × Rest text)
  | '\\' :: rest =>
    match escaped? rest with
    | some (meant, ⟨'\'' :: behind, lt⟩) => some (meant, ⟨behind, by simp only [List.length_cons] at lt ⊢; omega⟩)
    | _ => none
  | '\'' :: _ => none
  | c :: '\'' :: rest => some (c, ⟨rest, by simp only [List.length_cons]; omega⟩)
  | _ => none

end Ron
end Parley
