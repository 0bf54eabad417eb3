import Parley.Json.Basic
import Parley.Text.Hexadecimal
import Parley.Text.Rest

/-!
# Outlines of JSON texts

The outline of a text is what a reader that goes through it once comes to see: the values up to the first fault, and
the fault as its last part.  A reader that needs a value and one that only passes over it do not fail in all the same
places, so a fault is recorded for both.

What is taken for JSON, and where a text breaks off, follows `serde_json` 1 with its default features, which reads strictly:
only the four blanks of JSON between parts, no zeros in front of a number and no sign but the minus, a digit on both sides of
a point, no comma behind the last part, and no control characters in strings.  Half of a pair of code units is a fault of a
string that is needed, and is let through where the string is passed over; a number that ends where a digit had to follow is
cut off for a reader that needs it, and malformed for one that passes over it.
-/

namespace Parley
namespace Json

open Text (Remainder Rest)

/-- Why a text gives no value. -/
inductive Fault where
  /-- The text is no JSON. -/
  | malformed
  /-- The text ends too early. -/
  | truncated
  /-- A value is not of the wanted kind. -/
  | mismatch
  deriving DecidableEq, Inhabited

/-- The words for a fault. -/
def Fault.message : Fault → String
  | .malformed => "the text is not well formed"
  | .truncated => "the text ends too early"
  | .mismatch => "a value is not of the expected kind"

/-- The place where a text stops being JSON. -/
structure Break where
  /-- The fault for a reader that needs the value here. -/
  needed : Fault
  /-- The fault for a reader that passes over it. -/
  passed : Fault
  deriving DecidableEq, Inhabited

/-- The same fault for every reader. -/
def Break.both (fault : Fault) : Break := ⟨fault, fault⟩

/-- The fault where one more character had to follow. -/
def Break.before : List Char → Break
  | [] => .both .truncated
  | _ :: _ => .both .malformed

/-- What a reader sees of a text. -/
inductive Outline where
  | null
  | bool (value : Bool)
  | number (numeral : Numeral)
  /-- A string; no text if it holds half of a pair of code units. -/
  | string (text : Option (List Char))
  /-- The items of an array, and where it breaks off. -/
  | array (items : List Outline) (stop : Option Break)
  /-- The members of an object, and where it breaks off. -/
  | object (members : List (Option (List Char) × Outline)) (stop : Option Break)
  /-- No value. -/
  | broken (stop : Break)
  deriving Inhabited

/-! ## Blanks and words -/

/-- The characters that may stand between the parts of a value. -/
def isBlank (c : Char) : Bool := c == ' ' || c == '\n' || c == '\t' || c == '\r'

/-- Go past blanks. -/
def skipBlank (text : List Char) : Remainder text := Text.skipWhile isBlank text

/-- Go past a word. -/
def word : (expected text : List Char) → Except Break (List Char)
  | [], text => .ok text
  | _ :: _, [] => .error (.both .truncated)
  | c :: expected, d :: text => if c = d then word expected text else .error (.both .malformed)

/-! ## Numerals -/

/-- The digits at the front of a text. -/
def digits (text : List Char) : List Char := text.takeWhile Char.isDigit

/-- The text behind the digits at its front. -/
def afterDigits (text : List Char) : List Char := text.dropWhile Char.isDigit

/-- The fault where a digit had to follow. -/
def Break.beforeDigit (text : List Char) : Break := ⟨(Break.before text).needed, .malformed⟩

/-- Digits that have to be there, and the text behind them. -/
def someDigits (text : List Char) : Except Break (List Char × List Char) :=
  if (digits text).isEmpty then .error (.beforeDigit text) else .ok (digits text, afterDigits text)

/-- The digits in front of a point.  Nothing follows a zero at the front. -/
def wholePart (text : List Char) : Except Break (List Char × List Char) :=
  match text with
  | '0' :: rest => if (digits rest).isEmpty then .ok (['0'], rest) else .error (.both .malformed)
  | _ => someDigits text

/-- The digits behind a point, if there is one. -/
def fractionPart : List Char → Except Break (List Char × List Char)
  | '.' :: rest => someDigits rest
  | text => .ok ([], text)

/-- The sign of an exponent. -/
def exponentSign : List Char → Bool × List Char
  | '-' :: rest => (true, rest)
  | '+' :: rest => (false, rest)
  | text => (false, text)

/-- An exponent, if there is one. -/
def exponentPart : List Char → Except Break (Option Exponent × List Char)
  | [] => .ok (none, [])
  | c :: rest =>
    if c = 'e' || c = 'E' then
      let (negative, unsigned) := exponentSign rest
      (someDigits unsigned).map fun (found, behind) => (some ⟨negative, found⟩, behind)
    else
      .ok (none, c :: rest)

/-- A numeral behind its sign. -/
def unsignedNumeral (negative : Bool) (text : List Char) : Except Break (Numeral × List Char) := do
  let (whole, rest) ← wholePart text
  let (fraction, rest) ← fractionPart rest
  let (exponent, rest) ← exponentPart rest
  return (⟨negative, whole, fraction, exponent⟩, rest)

/-! ## Strings -/

/-- The number of bytes of a text in UTF-8. -/
def byteLength : List Char → Nat
  | [] => 0
  | c :: rest => c.utf8Size + byteLength rest

/-- Read the four digits of a code unit. -/
def codeUnit (text : List Char) : Except Break (Nat × List Char) :=
  if byteLength text < 4 then .error (.both .truncated)
  else
    match Text.hexNumber? (text.take 4) with
    | some unit => .ok (unit, text.drop 4)
    | none => .error (.both .malformed)

/-- Whether a code unit is the first half of a pair. -/
def isHigh (unit : Nat) : Bool := 0xD800 ≤ unit && unit < 0xDC00

/-- Whether a code unit is the second half of a pair. -/
def isLow (unit : Nat) : Bool := 0xDC00 ≤ unit && unit < 0xE000

/-- The character that a pair of code units stands for. -/
def pairedChar (high low : Nat) : Char := Char.ofNat (0x10000 + (high - 0xD800) * 0x400 + (low - 0xDC00))

/-- What stands behind a backslash. -/
inductive Escaped where
  /-- A character. -/
  | char (c : Char) (rest : List Char)
  /-- Half of a pair; what follows is read only by those who pass over the string. -/
  | half (rest : List Char)
  | broken (stop : Break)

/-- Read what follows the first half of a pair. -/
def secondHalf (high : Nat) : List Char → Escaped
  | [] => .broken (.both .truncated)
  | ['\\'] => .broken (.both .truncated)
  | '\\' :: 'u' :: rest =>
    match codeUnit rest with
    | .error stop => .broken stop
    | .ok (low, behind) => if isLow low then .char (pairedChar high low) behind else .half behind
  | text => .half text

/-- Read what follows a backslash and `u`. -/
def unicodeEscape (text : List Char) : Escaped :=
  match codeUnit text with
  | .error stop => .broken stop
  | .ok (unit, rest) =>
    if isHigh unit then secondHalf unit rest
    else if isLow unit then .half rest
    else .char (Char.ofNat unit) rest

/-- The character that a letter behind a backslash stands for. -/
def unescape? : Char → Option Char
  | '"' => some '"'
  | '\\' => some '\\'
  | '/' => some '/'
  | 'b' => some '\x08'
  | 'f' => some '\x0c'
  | 'n' => some '\n'
  | 'r' => some '\r'
  | 't' => some '\t'
  | _ => none

/-- Read what follows a backslash. -/
def escaped : List Char → Escaped
  | [] => .broken (.both .truncated)
  | c :: rest =>
    if c = 'u' then unicodeEscape rest
    else
      match unescape? c with
      | some meant => .char meant rest
      | none => .broken (.both .malformed)

theorem length_le_of_codeUnit {text rest : List Char} {unit : Nat} (read : codeUnit text = .ok (unit, rest)) :
    rest.length ≤ text.length := by
  unfold codeUnit at read
  split at read
  · simp at read
  · split at read
    · simp only [Except.ok.injEq, Prod.mk.injEq] at read
      simp [← read.2]
    · simp at read

/-- Whether a reader goes on at a place not before the end of some text. -/
def Escaped.Within (text : List Char) : Escaped → Prop
  | .char _ rest => rest.length ≤ text.length
  | .half rest => rest.length ≤ text.length
  | .broken _ => True

theorem Escaped.Within.mono {shorter longer : List Char} (le : shorter.length ≤ longer.length) :
    {found : Escaped} → found.Within shorter → found.Within longer
  | .char _ _, within => Nat.le_trans within le
  | .half _, within => Nat.le_trans within le
  | .broken _, _ => trivial

theorem within_secondHalf (high : Nat) (text : List Char) : (secondHalf high text).Within text := by
  unfold secondHalf
  split
  · trivial
  · trivial
  · split
    · trivial
    · rename_i read
      have := length_le_of_codeUnit read
      split <;> simp only [Escaped.Within, List.length_cons] <;> omega
  · simp [Escaped.Within]

theorem within_unicodeEscape (text : List Char) : (unicodeEscape text).Within text := by
  unfold unicodeEscape
  split
  · trivial
  · rename_i read
    have shorter := length_le_of_codeUnit read
    split
    · exact (within_secondHalf _ _).mono shorter
    · split <;> exact shorter

theorem within_escaped (text : List Char) : (escaped text).Within text := by
  unfold escaped
  split
  · trivial
  · split
    · exact (within_unicodeEscape _).mono (Nat.le_succ _)
    · split
      · simp [Escaped.Within]
      · trivial

theorem length_le_of_escaped_char {text rest : List Char} {c : Char} (found : escaped text = .char c rest) :
    rest.length ≤ text.length := by
  have within := within_escaped text
  rwa [found] at within

theorem length_le_of_escaped_half {text rest : List Char} (found : escaped text = .half rest) :
    rest.length ≤ text.length := by
  have within := within_escaped text
  rwa [found] at within

/-- What was found behind an opening quote. -/
inductive Quoted where
  /-- A string, and what follows its closing quote. -/
  | closed (content : Option (List Char)) (rest : List Char)
  | broken (stop : Break)

/-- The string with one more character in front. -/
def Quoted.push (c : Char) : Quoted → Quoted
  | .closed content rest => .closed (content.map (c :: ·)) rest
  | .broken stop => .broken stop

/-- The string with half of a pair in front, where a reader that needs the string fails at once. -/
def Quoted.spoil : Quoted → Quoted
  | .closed _ rest => .closed none rest
  | .broken stop => .broken ⟨.malformed, stop.passed⟩

/-- Read a string from behind its opening quote. -/
def quoted (text : List Char) : Quoted :=
  match text with
  | [] => .broken (.both .truncated)
  | c :: rest =>
    if c = '"' then .closed (some []) rest
    else if c = '\\' then
      match found : escaped rest with
      | .char meant behind =>
        have : behind.length ≤ rest.length := length_le_of_escaped_char found
        (quoted behind).push meant
      | .half behind =>
        have : behind.length ≤ rest.length := length_le_of_escaped_half found
        (quoted behind).spoil
      | .broken stop => .broken stop
    else if c.toNat < 0x20 then .broken (.both .malformed)
    else (quoted rest).push c
termination_by text.length

/-! ## Every value uses up a part of the text -/

theorem Quoted.closed_of_push {c : Char} {found : Quoted} {content : Option (List Char)} {rest : List Char}
    (pushed : found.push c = .closed content rest) : ∃ shorter, found = .closed shorter rest := by
  cases found <;> simp_all [Quoted.push]

theorem Quoted.closed_of_spoil {found : Quoted} {content : Option (List Char)} {rest : List Char}
    (spoiled : found.spoil = .closed content rest) : ∃ before, found = .closed before rest := by
  cases found <;> simp_all [Quoted.spoil]

theorem length_lt_of_quoted {text rest : List Char} {content : Option (List Char)}
    (closed : quoted text = .closed content rest) : rest.length < text.length := by
  fun_induction quoted text generalizing content with
  | case1 => simp at closed
  | case2 behind =>
    simp only [Quoted.closed.injEq] at closed
    simp [closed.2]
  | case3 behind _ meant after _ le ih =>
    obtain ⟨shorter, same⟩ := Quoted.closed_of_push closed
    have := ih same
    simp only [List.length_cons]
    omega
  | case4 behind _ after _ le ih =>
    obtain ⟨before, same⟩ := Quoted.closed_of_spoil closed
    have := ih same
    simp only [List.length_cons]
    omega
  | case5 => simp at closed
  | case6 => simp at closed
  | case7 c behind _ _ _ ih =>
    obtain ⟨shorter, same⟩ := Quoted.closed_of_push closed
    have := ih same
    simp only [List.length_cons]
    omega

theorem length_le_of_word {expected text rest : List Char} (read : word expected text = .ok rest) :
    rest.length ≤ text.length := by
  fun_induction word expected text with
  | case1 => simp_all
  | case2 => simp at read
  | case3 _ _ _ ih => exact Nat.le_succ_of_le (ih read)
  | case4 => simp at read

theorem length_lt_of_someDigits {text found rest : List Char} (read : someDigits text = .ok (found, rest)) :
    rest.length < text.length := by
  unfold someDigits at read
  split at read
  · simp at read
  · rename_i nonempty
    simp only [Except.ok.injEq, Prod.mk.injEq] at read
    have split := congrArg List.length (List.takeWhile_append_dropWhile (p := Char.isDigit) (l := text))
    rw [List.length_append] at split
    have : (digits text).length ≠ 0 := fun none => nonempty (by simpa [List.isEmpty_iff] using none)
    simp only [digits] at this
    rw [← read.2, afterDigits]
    omega

theorem length_lt_of_wholePart {text found rest : List Char} (read : wholePart text = .ok (found, rest)) :
    rest.length < text.length := by
  unfold wholePart at read
  split at read
  · split at read
    · simp only [Except.ok.injEq, Prod.mk.injEq] at read
      simp [read.2]
    · simp at read
  · exact length_lt_of_someDigits read

theorem length_le_of_fractionPart {text found rest : List Char} (read : fractionPart text = .ok (found, rest)) :
    rest.length ≤ text.length := by
  unfold fractionPart at read
  split at read
  · exact Nat.le_succ_of_le (Nat.le_of_lt (length_lt_of_someDigits read))
  · simp_all

theorem length_exponentSign_le (text : List Char) : (exponentSign text).2.length ≤ text.length := by
  unfold exponentSign
  split <;> simp

theorem length_le_of_exponentPart {text rest : List Char} {found : Option Exponent}
    (read : exponentPart text = .ok (found, rest)) : rest.length ≤ text.length := by
  unfold exponentPart at read
  split at read
  · simp_all
  · rename_i behind
    split at read
    · have signed := length_exponentSign_le behind
      dsimp only at read
      cases unsigned : someDigits (exponentSign behind).2 with
      | error stop => simp [unsigned, Except.map] at read
      | ok pair =>
        have := length_lt_of_someDigits unsigned
        simp only [unsigned, Except.map, Except.ok.injEq, Prod.mk.injEq] at read
        rw [← read.2, List.length_cons]
        omega
    · simp_all

theorem length_lt_of_unsignedNumeral {negative : Bool} {text rest : List Char} {numeral : Numeral}
    (read : unsignedNumeral negative text = .ok (numeral, rest)) : rest.length < text.length := by
  unfold unsignedNumeral at read
  cases whole : wholePart text with
  | error stop => simp [whole, bind, Except.bind] at read
  | ok wholePair =>
    simp only [whole, bind, Except.bind] at read
    cases fraction : fractionPart wholePair.2 with
    | error stop => simp [fraction] at read
    | ok fractionPair =>
      simp only [fraction] at read
      cases exponent : exponentPart fractionPair.2 with
      | error stop => simp [exponent] at read
      | ok exponentPair =>
        simp only [exponent, pure, Except.pure, Except.ok.injEq, Prod.mk.injEq] at read
        have := length_lt_of_wholePart whole
        have := length_le_of_fractionPart fraction
        have := length_le_of_exponentPart exponent
        rw [← read.2]
        omega

/-! ## Values -/

/-- An outline, and what follows it unless it is broken. -/
abbrev Seen (text : List Char) := Outline × Option (Rest text)

/-- Read a word that stands for a value, behind its first character. -/
def wordValue (text expected : List Char) (meaning : Outline) : Outline × Option (Remainder text) :=
  match read : word expected text with
  | .ok rest => (meaning, some ⟨rest, length_le_of_word read⟩)
  | .error stop => (.broken stop, none)

/-- Read a numeral behind its sign. -/
def numeralValue (negative : Bool) (text : List Char) : Seen text :=
  match read : unsignedNumeral negative text with
  | .ok (numeral, rest) => (.number numeral, some ⟨rest, length_lt_of_unsignedNumeral read⟩)
  | .error stop => (.broken stop, none)

/-- Read a string behind its opening quote. -/
def stringValue (text : List Char) : Seen text :=
  match read : quoted text with
  | .closed content rest => (.string content, some ⟨rest, length_lt_of_quoted read⟩)
  | .broken stop => (.broken stop, none)

/-- Read a value that is neither an array nor an object, from its first character on. -/
def scalar (c : Char) (rest : List Char) : Outline × Option (Remainder rest) :=
  if c = 'n' then wordValue rest ['u', 'l', 'l'] .null
  else if c = 't' then wordValue rest ['r', 'u', 'e'] (.bool true)
  else if c = 'f' then wordValue rest ['a', 'l', 's', 'e'] (.bool false)
  else if c = '"' then
    let (found, behind) := stringValue rest
    (found, behind.map Rest.weaken)
  else if c = '-' then
    let (found, behind) := numeralValue true rest
    (found, behind.map Rest.weaken)
  else if c.isDigit then
    let (found, behind) := numeralValue false (c :: rest)
    (found, behind.map fun behind => ⟨behind.1, Nat.le_of_lt_succ behind.2⟩)
  else (.broken (.both .malformed), none)

/-- What follows an item of a container. -/
inductive Separator (text : List Char) where
  /-- A comma, behind which another item has to follow. -/
  | more (rest : Rest text)
  /-- The end of the container. -/
  | closed (rest : Rest text)
  | broken (stop : Break)

/-- Read what follows an item of a container that ends with the given character. -/
def separator (close : Char) (text : List Char) : Separator text :=
  match skipBlank text with
  | ⟨[], _⟩ => .broken (.both .truncated)
  | ⟨c :: rest, shorter⟩ =>
    if c = ',' then .more ⟨rest, shorter⟩
    else if c = close then .closed ⟨rest, shorter⟩
    else .broken (.both .malformed)

/-- What stands in front of the value of a member. -/
inductive MemberName (text : List Char) where
  /-- A name and a colon. -/
  | before (name : Option (List Char)) (rest : Rest text)
  /-- A name alone. -/
  | alone (name : Option (List Char)) (stop : Break)
  /-- No name. -/
  | broken (stop : Break)

/-- Read what stands in front of the value of a member. -/
def memberName (text : List Char) : MemberName text :=
  match skipBlank text with
  | ⟨[], _⟩ => .broken (.both .truncated)
  | ⟨c :: inner, _⟩ =>
    if c = '"' then
      match read : quoted inner with
      | .broken stop => .broken stop
      | .closed name rest =>
        have := length_lt_of_quoted read
        match skipBlank rest with
        | ⟨[], _⟩ => .alone name (.both .truncated)
        | ⟨d :: behind, _⟩ =>
          if d = ':' then .before name ⟨behind, by simp_all; omega⟩ else .alone name (.both .malformed)
    else .broken (.both .malformed)

/-- What is seen of the parts of a container: the parts, where they break off, and what follows their end. -/
abbrev SeenParts (α : Type) (text : List Char) := List α × Option Break × Option (Rest text)

mutual

/-- Read a value. -/
def readValue (text : List Char) : Seen text :=
  match skipBlank text with
  | ⟨[], _⟩ => (.broken (.both .truncated), none)
  | ⟨c :: inner, _⟩ =>
    if c = '[' then
      let (found, stop, rest) := readArray inner
      (.array found stop, rest.map fun rest => ⟨rest.1, by have := rest.2; simp_all; omega⟩)
    else if c = '\x7b' then
      let (found, stop, rest) := readObject inner
      (.object found stop, rest.map fun rest => ⟨rest.1, by have := rest.2; simp_all; omega⟩)
    else
      let (found, rest) := scalar c inner
      (found, rest.map fun rest => ⟨rest.1, by have := rest.2; simp_all; omega⟩)
termination_by 3 * text.length
decreasing_by all_goals simp_all; omega

/-- Read an array behind its opening bracket. -/
def readArray (text : List Char) : SeenParts Outline text :=
  match skipBlank text with
  | ⟨[], _⟩ => ([], some (.both .truncated), none)
  | ⟨c :: behind, shorter⟩ =>
    if c = ']' then ([], none, some ⟨behind, shorter⟩) else readItems text
termination_by 3 * text.length + 2

/-- Read the items of an array up to its end. -/
def readItems (text : List Char) : SeenParts Outline text :=
  match readValue text with
  | (item, none) => ([item], none, none)
  | (item, some ⟨rest, _⟩) =>
    match separator ']' rest with
    | .broken stop => ([item], some stop, none)
    | .closed ⟨behind, _⟩ => ([item], none, some ⟨behind, by omega⟩)
    | .more ⟨behind, _⟩ =>
      let (further, stop, rest) := readItems behind
      (item :: further, stop, rest.map fun rest => ⟨rest.1, by have := rest.2; omega⟩)
termination_by 3 * text.length + 1

/-- Read an object behind its opening brace. -/
def readObject (text : List Char) : SeenParts (Option (List Char) × Outline) text :=
  match skipBlank text with
  | ⟨[], _⟩ => ([], some (.both .truncated), none)
  | ⟨c :: behind, shorter⟩ =>
    if c = '\x7d' then ([], none, some ⟨behind, shorter⟩) else readMembers text
termination_by 3 * text.length + 2

/-- Read the members of an object up to its end. -/
def readMembers (text : List Char) : SeenParts (Option (List Char) × Outline) text :=
  match memberName text with
  | .broken stop => ([], some stop, none)
  | .alone name stop => ([(name, .broken stop)], none, none)
  | .before name ⟨behindName, _⟩ =>
    match readValue behindName with
    | (found, none) => ([(name, found)], none, none)
    | (found, some ⟨rest, _⟩) =>
      match separator '\x7d' rest with
      | .broken stop => ([(name, found)], some stop, none)
      | .closed ⟨behind, _⟩ => ([(name, found)], none, some ⟨behind, by omega⟩)
      | .more ⟨behind, _⟩ =>
        let (further, stop, rest) := readMembers behind
        ((name, found) :: further, stop, rest.map fun rest => ⟨rest.1, by have := rest.2; omega⟩)
termination_by 3 * text.length + 1

end

/-- The outline of a whole text, and whether something other than blanks follows it. -/
def outline (text : List Char) : Outline × Bool :=
  match readValue text with
  | (found, none) => (found, false)
  | (found, some rest) => (found, !(skipBlank rest.1).1.isEmpty)

end Json
end Parley
