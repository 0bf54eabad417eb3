import Mathlib
import Parley.Proofs.Text.Digits
import Parley.Proofs.Text.Runs
import Parley.Ron.Scalar

/-!
# Reading the written parts of RON

Blanks in front of a part are passed over.  A written name, whole number or string is read as what it was, if what follows
it cannot belong to a name or a number.
-/

namespace Parley
namespace Ron

open Text (StopsAt stopsAt_nil stopsAt_cons_iff takeWhile_run dropWhile_run hexValue? hexNumber? isDigit_toDigits
  exists_toDigits_eq_cons toDigits_append_ne_cons)

variable {c : Char} {blanks rest : List Char} {number bound : Nat}

/-! ## Blanks -/

theorem skipBlank_cons
    (solid : isBlank c = false)
    (noComment : c ≠ '/')
    (rest : List Char) :
    skipBlank (c :: rest) = some ⟨c :: rest, le_rfl⟩ := by
  rw [skipBlank, if_neg (by simp [solid]), if_neg noComment]
  · exact fun _ slash _ => noComment slash
  · exact fun _ slash _ => noComment slash

theorem skipBlank_blank
    (blank : isBlank c = true)
    {behind : Text.Remainder rest}
    (skip : skipBlank rest = some behind) :
    ∃ le, skipBlank (c :: rest) = some ⟨behind.1, le⟩ := by
  have noComment : c ≠ '/' := by
    rintro rfl
    cases blank
  refine ⟨Nat.le_succ_of_le behind.2, ?_⟩
  rw [skipBlank, if_pos blank, skip]
  · rfl
  · exact fun _ slash _ => noComment slash
  · exact fun _ slash _ => noComment slash

theorem skipBlank_append
    (allBlank : ∀ c ∈ blanks, isBlank c = true)
    (solid : isBlank c = false)
    (noComment : c ≠ '/')
    (rest : List Char) :
    ∃ le, skipBlank (blanks ++ c :: rest) = some ⟨c :: rest, le⟩ := by
  induction blanks with
  | nil => exact ⟨_, skipBlank_cons solid noComment rest⟩
  | cons blank further inductionHypothesis =>
      obtain ⟨isBlank, furtherBlank⟩ := List.forall_mem_cons.mp allBlank
      obtain ⟨le, skip⟩ := inductionHypothesis furtherBlank
      exact skipBlank_blank isBlank skip

theorem nextChar_append
    (allBlank : ∀ c ∈ blanks, isBlank c = true)
    (solid : isBlank c = false)
    (noComment : c ≠ '/')
    (rest : List Char) :
    ∃ shorter, nextChar (blanks ++ c :: rest) = some (c, ⟨rest, shorter⟩) := by
  obtain ⟨le, skip⟩ := skipBlank_append allBlank solid noComment rest
  exact ⟨le, by rw [nextChar, skip]⟩

theorem nextChar_cons
    (solid : isBlank c = false)
    (noComment : c ≠ '/')
    (rest : List Char) :
    nextChar (c :: rest) = some (c, ⟨rest, Text.length_lt_cons c rest⟩) := by
  rw [nextChar, skipBlank_cons solid noComment]

theorem expect_cons
    (solid : isBlank c = false)
    (noComment : c ≠ '/')
    (rest : List Char) :
    expect c (c :: rest) = some ⟨rest, Text.length_lt_cons c rest⟩ := by
  rw [expect, nextChar_cons solid noComment]
  simp only [if_true]

/-! ## Names -/

/-- A name that is not taken for a mark of raw text. -/
structure IsName (name : List Char) : Prop where
  start : ∃ first further, name = first :: further ∧ isNameStart first = true
  all_nameChar : ∀ c ∈ name, isNameChar c = true
  not_mark : name ≠ ['r']

theorem isName_of_all
    {name : List Char}
    (start : name.head?.any isNameStart = true)
    (all : name.all isNameChar = true)
    (notMark : name ≠ ['r']) :
    IsName name := by
  cases name with
  | nil => cases start
  | cons first further => exact ⟨⟨first, further, rfl, start⟩, List.all_eq_true.mp all, notMark⟩

theorem isNameChar_of_not_raw
    (stops : isRawNameChar c = false) :
    isNameChar c = false := by
  simp only [isRawNameChar, Bool.or_eq_false_iff] at stops
  exact stops.1.1.1

theorem name?_append
    {name : List Char}
    (isName : IsName name)
    (stops : StopsAt isRawNameChar rest) :
    ∃ behind, name? (name ++ rest) = some (false, name, behind) ∧ behind.1 = rest := by
  obtain ⟨first, further, rfl, start⟩ := isName.start
  have furtherName : ∀ c ∈ further, isNameChar c = true := fun c member =>
    isName.all_nameChar c (List.mem_cons_of_mem _ member)
  have nameStops : StopsAt isNameChar rest := fun c there => isNameChar_of_not_raw (stops c there)
  have noRaw : rest.head?.any isRawNameChar = false := by
    cases rest with
    | nil => rfl
    | cons c behind => exact stops c rfl
  -- A mark of raw text would have to begin within the name, where only name characters stand, or behind an `r` alone.
  have unmarked {mark : Char} {behind : List Char} (notName : isNameChar mark = false) :
      first = 'r' → further ++ rest = mark :: behind → False := by
    rintro rfl marked
    cases further with
    | nil => exact isName.not_mark rfl
    | cons second others =>
        have same : second = mark := (List.cons.inj marked).1
        rw [same] at furtherName
        exact absurd (furtherName mark List.mem_cons_self) (by simp [notName])
  rw [List.cons_append, name?, dropWhile_run furtherName nameStops, takeWhile_run furtherName nameStops, start, noRaw]
  · exact ⟨_, rfl, dropWhile_run furtherName nameStops⟩
  · exact fun _ _ => unmarked (by decide)
  · exact unmarked (by decide)
  · exact fun _ => unmarked (by decide)

theorem name?_eq_none
    (notStart : isNameStart c = false)
    (rest : List Char) :
    name? (c :: rest) = none := by
  have notMark : c ≠ 'r' := by
    rintro rfl
    cases notStart
  rw [name?, notStart]
  · rfl
  · exact fun _ _ mark _ => notMark mark
  · exact fun mark _ => notMark mark
  · exact fun _ mark _ => notMark mark

/-! ## Whole numbers -/

theorem isIntChar_of_isDigit
    (digit : c.isDigit = true) :
    isIntChar c = true := by
  simp [isIntChar, hexValue?, digit]

theorem isFloatChar_of_isDigit
    (digit : c.isDigit = true) :
    isFloatChar c = true := by
  simp [isFloatChar, digit]

theorem isRawNameChar_of_isAlphanum
    (alphanumeric : c.isAlphanum = true) :
    isRawNameChar c = true := by
  simp [isRawNameChar, isNameChar, alphanumeric]

theorem isRawNameChar_of_isIntChar
    (ofInt : isIntChar c = true) :
    isRawNameChar c = true := by
  rw [isIntChar, Bool.or_eq_true, beq_iff_eq] at ofInt
  rcases ofInt with hexadecimal | rfl
  · apply isRawNameChar_of_isAlphanum
    rw [Char.isAlphanum, Char.isAlpha, Bool.or_eq_true, Bool.or_eq_true]
    unfold hexValue? at hexadecimal
    split_ifs at hexadecimal with digit small large
    · exact .inr digit
    · left
      right
      simp only [Bool.and_eq_true, decide_eq_true_eq, Char.le_def, UInt32.le_iff_toNat_le] at small
      simp only [Char.isLower, Bool.and_eq_true, decide_eq_true_eq, UInt32.le_iff_toNat_le]
      exact ⟨small.1, small.2.trans (by decide)⟩
    · left
      left
      simp only [Bool.and_eq_true, decide_eq_true_eq, Char.le_def, UInt32.le_iff_toNat_le] at large
      simp only [Char.isUpper, decide_eq_true_eq, UInt32.le_iff_toNat_le]
      exact ⟨large.1, large.2.trans (by decide)⟩
    · cases hexadecimal
  · decide

theorem isRawNameChar_of_isFloatChar
    (ofFloat : isFloatChar c = true) :
    isRawNameChar c = true := by
  simp only [isFloatChar, Bool.or_eq_true, beq_iff_eq] at ofFloat
  rcases ofFloat with (((((digit | rfl) | rfl) | rfl) | rfl) | rfl) | rfl
  · exact isRawNameChar_of_isAlphanum (by simp [Char.isAlphanum, digit])
  all_goals decide

theorem stopsAt_of_raw
    {p : Char → Bool}
    (wider : ∀ {c}, p c = true → isRawNameChar c = true)
    (stops : StopsAt isRawNameChar rest) :
    StopsAt p rest := by
  intro first there
  rw [← Bool.not_eq_true]
  intro holds
  exact absurd (wider holds) (by simp [stops first there])

theorem natOfDigits?_eq
    {base sum : Nat}
    {digits : List Char}
    {values : List Nat}
    (read : digits.mapM hexValue? = some values)
    (bounded : ∀ value ∈ values, value < base) :
    natOfDigits? base sum digits = some (values.foldl (fun sum value => base * sum + value) sum) := by
  induction digits generalizing sum values with
  | nil =>
      cases read
      rfl
  | cons c rest inductionHypothesis =>
      rw [List.mapM_cons] at read
      obtain ⟨value, first, read⟩ := Option.bind_eq_some_iff.mp read
      obtain ⟨others, further, read⟩ := Option.bind_eq_some_iff.mp read
      cases read
      obtain ⟨small, othersSmall⟩ := List.forall_mem_cons.mp bounded
      have noUnderscore : c ≠ '_' := by
        rintro rfl
        cases first
      rw [natOfDigits?, if_neg noUnderscore, first]
      simp only [if_pos small]
      exact inductionHypothesis further othersSmall

theorem natOfDigits?_toDigits
    (number : Nat) :
    natOfDigits? 10 0 (Nat.toDigits 10 number) = some number := by
  obtain ⟨values, read, bounded, sum⟩ := Text.mapM_hexValue?_toDigits (by decide : 1 < 10) (by decide) number
  rw [natOfDigits?_eq read bounded, sum]

/-- Decimal digits announce no other base. -/
theorem baseOf_toDigits
    (number : Nat)
    (stops : StopsAt isRawNameChar rest) :
    baseOf (Nat.toDigits 10 number ++ rest) = (10, Nat.toDigits 10 number ++ rest) := by
  have announces {letter : Char} (name : isRawNameChar letter = true) (notDigit : letter.isDigit = false)
      (behind : List Char) : Nat.toDigits 10 number ++ rest = '0' :: letter :: behind → False := by
    intro same
    have zero : (Nat.toDigits 10 number).head? = some '0' := by
      rw [← List.head?_append_of_ne_nil _ Nat.toDigits_ne_nil, same]
      rfl
    rw [Text.eq_zero_of_head?_toDigits zero] at same
    have letterFollows : rest = letter :: behind := (List.cons.inj same).2
    rw [letterFollows] at stops
    exact absurd name (by simp [stopsAt_cons_iff.mp stops])
  rw [baseOf]
  · exact announces (by decide) (by decide)
  · exact announces (by decide) (by decide)
  · exact announces (by decide) (by decide)

theorem unsignedInt?_toDigits
    (small : number < bound)
    (stops : StopsAt isRawNameChar rest) :
    unsignedInt? bound (Nat.toDigits 10 number ++ rest) = some (number, rest) := by
  have digits : ∀ c ∈ Nat.toDigits 10 number, isIntChar c = true := fun c member =>
    isIntChar_of_isDigit (isDigit_toDigits number c member)
  have intStops := stopsAt_of_raw isRawNameChar_of_isIntChar stops
  obtain ⟨first, further, front, digit⟩ := exists_toDigits_eq_cons number
  have noUnderscore : first ≠ '_' := by
    rintro rfl
    cases digit
  have written : ((Nat.toDigits 10 number).isEmpty || (Nat.toDigits 10 number).head? == some '_') = false := by
    rw [front]
    simpa using noUnderscore
  rw [unsignedInt?, baseOf_toDigits number stops]
  simp only [takeWhile_run digits intStops, dropWhile_run digits intStops, written, natOfDigits?_toDigits, small,
    if_true, Bool.false_eq_true, if_false]

/-- A whole number that has 64 bits, or one more without its sign. -/
def InRange (number : Int) : Prop := -(Nat.pow 2 63) ≤ number ∧ number < Nat.pow 2 64

theorem looksFloat_eq_false
    {text : List Char}
    (number : Nat)
    (sign : unsigned text = Nat.toDigits 10 number ++ rest)
    (stops : StopsAt isRawNameChar rest) :
    looksFloat text = false := by
  have ints : ∀ c ∈ Nat.toDigits 10 number, isIntChar c = true := fun c member =>
    isIntChar_of_isDigit (isDigit_toDigits number c member)
  have floats : ∀ c ∈ Nat.toDigits 10 number, isFloatChar c = true := fun c member =>
    isFloatChar_of_isDigit (isDigit_toDigits number c member)
  rw [looksFloat, sign, takeWhile_run ints (stopsAt_of_raw isRawNameChar_of_isIntChar stops),
    takeWhile_run floats (stopsAt_of_raw isRawNameChar_of_isFloatChar stops)]
  simp

theorem int?_intText
    {number : Int}
    (inRange : InRange number)
    (stops : StopsAt isRawNameChar rest) :
    int? (intText number ++ rest) = some (.int (decide (number < 0)) number, rest) := by
  obtain ⟨low, high⟩ := inRange
  rw [Nat.pow_eq] at low high
  rw [intText]
  split_ifs with negative
  · have small : number.natAbs < Nat.pow 2 63 + 1 := by
      rw [Nat.pow_eq]
      omega
    have back : -(number.natAbs : Int) = number := by omega
    rw [List.singleton_append, List.cons_append, int?, unsignedInt?_toDigits small stops, Option.map_some]
    simp only [back, negative, decide_true]
  · have small : number.natAbs < Nat.pow 2 64 := by
      rw [Nat.pow_eq]
      omega
    have back : (number.natAbs : Int) = number := by omega
    rw [List.nil_append, int?, unsignedInt?_toDigits small stops, Option.map_some]
    · simp only [back, negative, decide_false]
    · exact toDigits_append_ne_cons (by decide) _ rest
    · exact toDigits_append_ne_cons (by decide) _ rest

theorem unsigned_intText
    (number : Int)
    (rest : List Char) :
    unsigned (intText number ++ rest) = Nat.toDigits 10 number.natAbs ++ rest := by
  rw [intText]
  split_ifs with negative
  · rfl
  · rw [List.nil_append, unsigned]
    · exact toDigits_append_ne_cons (by decide) _ rest
    · exact toDigits_append_ne_cons (by decide) _ rest

/-- A written whole number of 64 bits is read as this number. -/
theorem number?_intText
    {number : Int}
    (inRange : InRange number)
    (stops : StopsAt isRawNameChar rest) :
    ∃ behind, number? (intText number ++ rest) = some (.int (decide (number < 0)) number, behind) ∧
      behind.1 = rest := by
  have notFloat := looksFloat_eq_false number.natAbs (unsigned_intText number rest) stops
  have shorter : rest.length < (intText number ++ rest).length := by
    have positive := Nat.length_toDigits_pos (b := 10) (n := number.natAbs)
    rw [intText, List.length_append, List.length_append]
    omega
  refine ⟨⟨rest, shorter⟩, ?_, rfl⟩
  rw [number?, notFloat, int?_intText inRange stops]
  simp only [Bool.false_eq_true, if_false, Option.some_or, Option.bind_some, partOf?, dif_pos shorter]

/-! ## Strings -/

theorem string?_quote
    (rest : List Char) :
    ∃ behind, string? ('"' :: rest) = some ([], behind) ∧ behind.1 = rest := by
  rw [string?]
  exact ⟨_, rfl, rfl⟩

theorem string?_plain
    {content : List Char}
    (notQuote : c ≠ '"')
    (notBackslash : c ≠ '\\')
    {text : List Char}
    (further : ∃ behind, string? text = some (content, behind) ∧ behind.1 = rest) :
    ∃ behind, string? (c :: text) = some (c :: content, behind) ∧ behind.1 = rest := by
  obtain ⟨behind, read, rfl⟩ := further
  rw [string?, if_neg notQuote, if_neg notBackslash, read]
  exact ⟨_, rfl, rfl⟩

theorem string?_escaped
    {meant : Char}
    {content text inner : List Char}
    (found : ∃ behind, escaped? text = some (meant, behind) ∧ behind.1 = inner)
    (further : ∃ behind, string? inner = some (content, behind) ∧ behind.1 = rest) :
    ∃ behind, string? ('\\' :: text) = some (meant :: content, behind) ∧ behind.1 = rest := by
  obtain ⟨⟨inner, shorter⟩, found, rfl⟩ := found
  obtain ⟨behind, read, rfl⟩ := further
  rw [string?, if_neg (by decide), if_pos rfl]
  simp only [found, read]
  exact ⟨_, rfl, rfl⟩

theorem escaped?_letter
    {letter meant : Char}
    (notByte : letter ≠ 'x')
    (notCode : letter ≠ 'u')
    (known : unescape? letter = some meant)
    (rest : List Char) :
    ∃ behind, escaped? (letter :: rest) = some (meant, behind) ∧ behind.1 = rest := by
  rw [escaped?, known]
  · exact ⟨_, rfl, rfl⟩
  · exact fun _ _ _ byte _ => notByte byte
  · exact fun _ code _ => notCode code

theorem isValidChar_toNat
    (c : Char) :
    c.toNat.isValidChar := c.valid

theorem charOf?_toNat
    (c : Char) :
    charOf? c.toNat = some c := by
  rw [charOf?, if_pos (isValidChar_toNat c), Char.ofNat_toNat]

theorem length_toDigits_toNat_le
    (c : Char) :
    (Nat.toDigits 16 c.toNat).length ≤ 6 := by
  refine (Nat.length_toDigits_le_iff (by decide) (by decide)).mpr ?_
  rcases isValidChar_toNat c with low | high <;> omega

theorem escaped?_code
    (c : Char)
    (rest : List Char) :
    ∃ behind, escaped? ('u' :: '\x7b' :: (Nat.toDigits 16 c.toNat ++ '\x7d' :: rest)) = some (c, behind) ∧
      behind.1 = rest := by
  have inside : ∀ digit ∈ Nat.toDigits 16 c.toNat, (digit != '\x7d') = true := by
    have all : ∀ value < 16, (Nat.digitChar value != '\x7d') = true := by decide
    intro digit member
    obtain ⟨value, small, rfl⟩ := Text.exists_of_mem_toDigits (by decide) member
    exact all value small
  have ends : StopsAt (· != '\x7d') ('\x7d' :: rest) := stopsAt_cons_iff.mpr (by decide)
  have skip : ∃ le, Text.skipWhile (· != '\x7d') (Nat.toDigits 16 c.toNat ++ '\x7d' :: rest) =
      ⟨'\x7d' :: rest, le⟩ := ⟨by simp, Subtype.ext (dropWhile_run inside ends)⟩
  obtain ⟨le, skip⟩ := skip
  have written : ((Nat.toDigits 16 c.toNat).isEmpty || decide (6 < (Nat.toDigits 16 c.toNat).length)) = false := by
    have short := length_toDigits_toNat_le c
    simp [short]
  rw [escaped?]
  simp only [skip, takeWhile_run inside ends, written, Text.hexNumber?_toDigits, Option.bind_some, charOf?_toNat,
    Bool.false_eq_true, if_false]
  exact ⟨_, rfl, rfl⟩

/-- How a character of a string is written: by a letter behind a backslash, by its code, or as it is. -/
theorem escape_cases
    (c : Char) :
    (∃ letter, Text.escape escapedQuotes c = ['\\', letter] ∧ letter ≠ 'x' ∧ letter ≠ 'u' ∧
        unescape? letter = some c) ∨
      Text.escape escapedQuotes c = Text.codeEscape c ∨
        (Text.escape escapedQuotes c = [c] ∧ c ≠ '"' ∧ c ≠ '\\') := by
  unfold Text.escape
  split_ifs with null tab newLine carriageReturn mark code
  · exact .inl ⟨'0', rfl, by decide, by decide, null ▸ rfl⟩
  · exact .inl ⟨'t', rfl, by decide, by decide, tab ▸ rfl⟩
  · exact .inl ⟨'n', rfl, by decide, by decide, newLine ▸ rfl⟩
  · exact .inl ⟨'r', rfl, by decide, by decide, carriageReturn ▸ rfl⟩
  · have known : c = '\\' ∨ c = '"' ∨ c = '\'' := by simpa [escapedQuotes] using mark
    rcases known with rfl | rfl | rfl <;> exact .inl ⟨_, rfl, by decide, by decide, rfl⟩
  · exact .inr (.inl rfl)
  · have plain : c ≠ '\\' ∧ c ≠ '"' ∧ c ≠ '\'' := by simpa [escapedQuotes] using mark
    exact .inr (.inr ⟨rfl, plain.2.1, plain.1⟩)

/-- A written string is read as this string. -/
theorem string?_flatMap_escape
    (content rest : List Char) :
    ∃ behind, string? (content.flatMap (Text.escape escapedQuotes) ++ '"' :: rest) = some (content, behind) ∧
      behind.1 = rest := by
  induction content with
  | nil => exact string?_quote rest
  | cons c content inductionHypothesis =>
      rw [List.flatMap_cons, List.append_assoc]
      rcases escape_cases c with ⟨letter, text, notByte, notCode, known⟩ | text | ⟨text, notQuote, notBackslash⟩
      · rw [text]
        exact string?_escaped (escaped?_letter notByte notCode known _) inductionHypothesis
      · rw [text, Text.codeEscape, List.cons_append, List.cons_append, List.cons_append, List.append_assoc]
        exact string?_escaped (escaped?_code c _) inductionHypothesis
      · rw [text]
        exact string?_plain notQuote notBackslash inductionHypothesis

end Ron
end Parley
