import Mathlib
import Parley.Proofs.Ron.Floats
import Parley.Ron.Decode

/-!
# Reading written RON

The text of a RON value, with blanks in front of it, is read as this value.  The values that are written for documents are
meant: their records have no names, and nothing in them stands for a name.
-/

namespace Parley
namespace Ron

open Text (StopsAt stopsAt_nil stopsAt_cons_iff)

variable {α β : Type} {implicit : Bool} {c close : Char} {blanks text inner rest : List Char} {found : Ron}

/-! ## Plain values -/

mutual

/-- A value without characters and names, whose numbers are as they are read. -/
def Plain : Ron → Prop
  | .unit => True
  | .bool _ => True
  | .int signed value => signed = decide (value < 0) ∧ InRange value
  | .float value => value.isNaN = true → value = .notANumber
  | .string _ => True
  | .present value => value.Plain
  | .list items => PlainItems items
  | .record none fields => fields ≠ [] ∧ PlainFields fields
  | .map entries => PlainEntries entries
  | _ => False

/-- Plain values in a row. -/
def PlainItems : List Ron → Prop
  | [] => True
  | item :: rest => item.Plain ∧ PlainItems rest

/-- Plain values behind labels that are names. -/
def PlainFields : List (List Char × Ron) → Prop
  | [] => True
  | (label, value) :: rest => IsName label ∧ value.Plain ∧ PlainFields rest

/-- Plain values under plain keys. -/
def PlainEntries : List (Ron × Ron) → Prop
  | [] => True
  | (key, value) :: rest => key.Plain ∧ value.Plain ∧ PlainEntries rest

end

/-! ## What readers find -/

/-- A reader finds a value at the front of a text and leaves the rest. -/
def Finds (seen : Seen α text) (value : α) (rest : List Char) : Prop :=
  ∃ behind, seen = some (value, behind) ∧ behind.1 = rest

/-- A reader reads a value at the front of a text and leaves the rest. -/
def Reads (implicit : Bool) (text : List Char) (value : Ron) (rest : List Char) : Prop :=
  Finds (value? implicit text) value rest

/-- A reader reads the items of a container up to its end and leaves the rest. -/
def ReadsItems (implicit : Bool) (close : Char) (text : List Char) (items : List Ron) (rest : List Char) : Prop :=
  Finds (items? implicit close text) items rest

/-- A reader reads the fields of a record up to its end and leaves the rest. -/
def ReadsFields (implicit : Bool) (text : List Char) (fields : List (List Char × Ron)) (rest : List Char) : Prop :=
  Finds (fields? implicit text) fields rest

/-- A reader reads the entries of a map up to its end and leaves the rest. -/
def ReadsEntries (implicit : Bool) (text : List Char) (entries : List (Ron × Ron)) (rest : List Char) : Prop :=
  Finds (entries? implicit text) entries rest

theorem finds_seenIn
    {longer : List Char}
    {seen : Seen α text}
    {value : α}
    (finds : Finds seen value rest)
    (change : α → β)
    (le : text.length ≤ longer.length) :
    Finds (seenIn change seen le) (change value) rest := by
  obtain ⟨behind, rfl, rfl⟩ := finds
  exact ⟨_, rfl, rfl⟩

theorem isBlank_newLine
    (depth : Nat) :
    ∀ c ∈ newLine depth, isBlank c = true := by
  intro c member
  rcases List.mem_cons.mp member with rfl | padding
  · rfl
  · rw [List.eq_of_mem_replicate padding]
    rfl

theorem isBlank_space : ∀ c ∈ [' '], isBlank c = true := List.forall_mem_singleton.mpr rfl

theorem stopsAt_mark
    (mark : isRawNameChar c = false)
    (rest : List Char) :
    StopsAt isRawNameChar (c :: rest) := stopsAt_cons_iff.mpr mark

/-! ## Values without names -/

theorem exists_intText_eq_cons
    (number : Int) :
    ∃ first further, intText number = first :: further ∧ (first.isDigit = true ∨ first = '-') := by
  rw [intText]
  split_ifs
  · exact ⟨_, _, rfl, .inr rfl⟩
  · obtain ⟨first, further, front, digit⟩ := Text.exists_toDigits_eq_cons number.natAbs
    exact ⟨first, further, front, .inl digit⟩

theorem ne_of_digit_or_minus
    {d : Char}
    (begins : c.isDigit = true ∨ c = '-')
    (noDigit : d.isDigit = false)
    (noMinus : d ≠ '-') :
    c ≠ d := by
  rintro rfl
  exact begins.elim (fun digit => absurd digit (by simp [noDigit])) noMinus

theorem isBlank_of_digit_or_minus
    (begins : c.isDigit = true ∨ c = '-') :
    isBlank c = false := by
  have space := ne_of_digit_or_minus (d := ' ') begins (by decide) (by decide)
  have line := ne_of_digit_or_minus (d := '\n') begins (by decide) (by decide)
  have tab := ne_of_digit_or_minus (d := '\t') begins (by decide) (by decide)
  have carriage := ne_of_digit_or_minus (d := '\r') begins (by decide) (by decide)
  simp [isBlank, space, line, tab, carriage]

theorem isNameStart_of_isDigit
    (digit : c.isDigit = true) :
    isNameStart c = false := by
  rw [← Bool.not_eq_true, isNameStart, Char.isAlpha, Bool.or_eq_true, Bool.or_eq_true, beq_iff_eq]
  simp only [Char.isDigit, Char.isUpper, Char.isLower, Bool.and_eq_true, decide_eq_true_eq, ge_iff_le,
    UInt32.le_iff_toNat_le] at digit ⊢
  have nine : c.val.toNat ≤ 57 := digit.2
  rintro ((⟨upper, -⟩ | ⟨lower, -⟩) | rfl)
  · have fromA : 65 ≤ c.val.toNat := upper
    omega
  · have fromA : 97 ≤ c.val.toNat := lower
    omega
  · exact absurd nine (by decide)

section

variable (allBlank : ∀ c ∈ blanks, isBlank c = true)

include allBlank

theorem reads_unit
    (rest : List Char) :
    Reads implicit (blanks ++ '(' :: ')' :: rest) .unit rest := by
  obtain ⟨shorter, next⟩ := nextChar_append (c := '(') allBlank (by decide) (by decide) (')' :: rest)
  rw [Reads, value?, next]
  simp only [Option.bind_eq_bind, Option.bind_some, name?_eq_none (c := '(') (by decide)]
  exact ⟨_, rfl, rfl⟩

theorem reads_parts
    (notUnit : inner.head? ≠ some ')')
    (read : Finds (parts? implicit none inner) found rest) :
    Reads implicit (blanks ++ '(' :: inner) found rest := by
  obtain ⟨shorter, next⟩ := nextChar_append (c := '(') allBlank (by decide) (by decide) inner
  rw [Reads, value?, next]
  simp only [Option.bind_eq_bind, Option.bind_some, name?_eq_none (c := '(') (by decide), if_true, beq_iff_eq, notUnit,
    if_false]
  exact finds_seenIn read id _

theorem reads_list
    {items : List Ron}
    (read : ReadsItems implicit ']' inner items rest) :
    Reads implicit (blanks ++ '[' :: inner) (.list items) rest := by
  obtain ⟨shorter, next⟩ := nextChar_append (c := '[') allBlank (by decide) (by decide) inner
  rw [Reads, value?, next]
  simp only [Option.bind_eq_bind, Option.bind_some, name?_eq_none (c := '[') (by decide), Char.reduceEq, if_false, if_true]
  exact finds_seenIn read Ron.list _

theorem reads_map
    {entries : List (Ron × Ron)}
    (read : ReadsEntries implicit inner entries rest) :
    Reads implicit (blanks ++ '\x7b' :: inner) (.map entries) rest := by
  obtain ⟨shorter, next⟩ := nextChar_append (c := '\x7b') allBlank (by decide) (by decide) inner
  rw [Reads, value?, next]
  simp only [Option.bind_eq_bind, Option.bind_some, name?_eq_none (c := '\x7b') (by decide), Char.reduceEq, if_false,
    if_true]
  exact finds_seenIn read Ron.map _

theorem reads_string
    (content rest : List Char) :
    Reads implicit (blanks ++ (quote content ++ rest)) (.string content) rest := by
  have front : quote content ++ rest = '"' :: (content.flatMap (Text.escape escapedQuotes) ++ '"' :: rest) := by
    simp [quote]
  rw [front]
  obtain ⟨shorter, next⟩ := nextChar_append (c := '"') allBlank (by decide) (by decide)
    (content.flatMap (Text.escape escapedQuotes) ++ '"' :: rest)
  rw [Reads, value?, next]
  simp only [Option.bind_eq_bind, Option.bind_some, name?_eq_none (c := '"') (by decide), Char.reduceEq, if_false, scalar?,
    if_true]
  exact finds_seenIn (finds_seenIn (string?_flatMap_escape content rest) Ron.string _) id _

theorem reads_number
    {first : Char}
    {further : List Char}
    (begins : first.isDigit = true ∨ first = '-')
    (read : ∃ behind, number? (first :: further) = some (found, behind) ∧ behind.1 = rest) :
    Reads implicit (blanks ++ first :: further) found rest := by
  have other {d : Char} (noDigit : d.isDigit = false) (noMinus : d ≠ '-') : first ≠ d :=
    ne_of_digit_or_minus begins noDigit noMinus
  have notStart : isNameStart first = false := by
    rcases begins with digit | rfl
    · exact isNameStart_of_isDigit digit
    · decide
  have scalar : scalar? first further = number? (first :: further) := by
    rw [scalar?, if_neg (other (by decide) (by decide)), if_neg (other (by decide) (by decide)),
      if_neg (other (by decide) (by decide)), if_neg (other (by decide) (by decide)), if_pos]
    rcases begins with digit | rfl
    · simp [digit]
    · decide
  have solid : isBlank first = false := isBlank_of_digit_or_minus begins
  obtain ⟨shorter, next⟩ := nextChar_append allBlank solid (other (by decide) (by decide)) further
  rw [Reads, value?, next]
  simp only [Option.bind_eq_bind, Option.bind_some, name?_eq_none notStart, other (d := '(') (by decide) (by decide),
    other (d := '[') (by decide) (by decide), other (d := '\x7b') (by decide) (by decide), if_false, scalar]
  exact finds_seenIn read id _

theorem reads_int
    {number : Int}
    (inRange : InRange number)
    (stops : StopsAt isRawNameChar rest) :
    Reads implicit (blanks ++ (intText number ++ rest)) (.int (decide (number < 0)) number) rest := by
  obtain ⟨first, further, front, begins⟩ := exists_intText_eq_cons number
  have read := number?_intText inRange stops
  rw [front, List.cons_append] at read ⊢
  exact reads_number allBlank begins read

/-! ## Values with names -/

theorem skipBlank_name
    {name : List Char}
    (isName : IsName name)
    (rest : List Char) :
    ∃ le, skipBlank (blanks ++ (name ++ rest)) = some ⟨name ++ rest, le⟩ := by
  obtain ⟨first, further, rfl, start⟩ := isName.start
  have other {d : Char} (noStart : isNameStart d = false) : first ≠ d := by
    rintro rfl
    cases start.symm.trans noStart
  refine skipBlank_append allBlank ?_ (other (by decide)) (further ++ rest)
  simp [isBlank, other (d := ' ') (by decide), other (d := '\n') (by decide), other (d := '\t') (by decide),
    other (d := '\r') (by decide)]

/-- The first character of a name, behind blanks, ends no record. -/
theorem exists_nextChar_name
    {name : List Char}
    (isName : IsName name)
    (rest : List Char) :
    ∃ next, nextChar (blanks ++ (name ++ rest)) = some next ∧ next.1 ≠ ')' := by
  obtain ⟨le, skip⟩ := skipBlank_name allBlank isName rest
  obtain ⟨first, further, rfl, start⟩ := isName.start
  refine ⟨(first, ⟨further ++ rest, le⟩), by rw [nextChar, skip]; rfl, ?_⟩
  rintro rfl
  cases start

theorem finds_label
    {label : List Char}
    (isName : IsName label)
    (rest : List Char) :
    Finds (label? (blanks ++ (label ++ ':' :: rest))) label rest := by
  obtain ⟨le, skip⟩ := skipBlank_name allBlank isName (':' :: rest)
  have stops := stopsAt_mark (by decide : isRawNameChar ':' = false) rest
  obtain ⟨⟨behind, shorter⟩, named, left⟩ := name?_append isName stops
  cases left
  rw [label?, skip]
  simp only [Option.bind_eq_bind, Option.bind_some, named, expect_cons (c := ':') (by decide) (by decide)]
  exact ⟨_, rfl, rfl⟩

theorem nextChar_name
    {name : List Char}
    (isName : IsName name)
    (stops : StopsAt isRawNameChar rest) :
    ∃ first further, (∃ shorter, nextChar (blanks ++ (name ++ rest)) = some (first, ⟨further, shorter⟩)) ∧
      ∃ shorter, name? (first :: further) = some (false, name, ⟨rest, shorter⟩) := by
  obtain ⟨le, skip⟩ := skipBlank_name allBlank isName rest
  obtain ⟨behind, named, left⟩ := name?_append isName stops
  have shorter : rest.length < (name ++ rest).length := lt_of_eq_of_lt (congrArg List.length left.symm) behind.2
  have same : behind = ⟨rest, shorter⟩ := Subtype.ext left
  rw [same] at named
  obtain ⟨first, further, rfl, start⟩ := isName.start
  exact ⟨first, further ++ rest, ⟨le, by rw [nextChar, skip]; rfl⟩, _, named⟩

theorem reads_word
    {word : List Char}
    (isName : IsName word)
    (notPresent : word ≠ presentWord)
    (known : wordMeaning? word = some found)
    (stops : StopsAt isRawNameChar rest) :
    Reads implicit (blanks ++ (word ++ rest)) found rest := by
  obtain ⟨first, further, ⟨shorter, next⟩, less, named⟩ := nextChar_name allBlank isName stops
  rw [Reads, value?, next]
  simp only [Option.bind_eq_bind, Option.bind_some, named, Bool.not_false, Bool.true_and, beq_iff_eq, notPresent,
    Bool.false_eq_true, if_false, known]
  exact ⟨_, rfl, rfl⟩

theorem reads_bool
    (value : Bool)
    (depth : Nat)
    (stops : StopsAt isRawNameChar rest) :
    Reads implicit (blanks ++ (write depth (.bool value) ++ rest)) (.bool value) rest := by
  cases value <;> rw [write] <;>
    exact reads_word allBlank (isName_of_all (by decide) (by decide) (by decide)) (by decide) rfl stops

theorem reads_float
    {number : Binary64}
    (plain : (Ron.float number).Plain)
    (stops : StopsAt isRawNameChar rest) :
    Reads implicit (blanks ++ (floatText number ++ rest)) (.float number) rest := by
  rcases floatText_cases number with ⟨none, written⟩ | ⟨rfl, written⟩ | ⟨rfl, written⟩ | finite
  · rw [written, plain none]
    exact reads_word allBlank (isName_of_all (by decide) (by decide) (by decide)) (by decide) rfl stops
  · rw [written]
    exact reads_word allBlank (isName_of_all (by decide) (by decide) (by decide)) (by decide) rfl stops
  · rw [written]
    exact reads_number allBlank (.inr rfl) (number?_negative_infinity stops)
  · obtain ⟨first, further, front, begins⟩ := exists_floatText_eq_cons finite
    have read := number?_finite finite stops
    rw [front, List.cons_append] at read ⊢
    exact reads_number allBlank begins read

theorem reads_present
    (read : Reads implicit inner found (')' :: rest)) :
    Reads implicit (blanks ++ (presentWord ++ '(' :: inner)) (.present found) rest := by
  have isName : IsName presentWord := isName_of_all (by decide) (by decide) (by decide)
  have stops := stopsAt_mark (by decide : isRawNameChar '(' = false) inner
  obtain ⟨first, further, ⟨shorter, next⟩, less, named⟩ := nextChar_name allBlank isName stops
  obtain ⟨⟨behind, smaller⟩, read, left⟩ := read
  cases left
  have inside : Finds (present? implicit ('(' :: inner)) found rest := by
    rw [present?, nextChar_cons (by decide) (by decide)]
    simp only [Option.bind_eq_bind, Option.bind_some, if_true, read, nextChar_cons (c := ')') (by decide) (by decide)]
    exact ⟨_, rfl, rfl⟩
  rw [Reads, value?, next]
  simp only [Option.bind_eq_bind, Option.bind_some, named, Bool.not_false, Bool.true_and, BEq.rfl, if_true]
  exact finds_seenIn inside Ron.present _

/-! ## Parts of containers -/

theorem reads_noItems
    (solid : isBlank close = false)
    (noComment : close ≠ '/')
    (rest : List Char) :
    ReadsItems implicit close (blanks ++ close :: rest) [] rest := by
  obtain ⟨shorter, next⟩ := nextChar_append allBlank solid noComment rest
  rw [ReadsItems, items?, next]
  simp only [Option.bind_eq_bind, Option.bind_some, if_true]
  exact ⟨_, rfl, rfl⟩

theorem reads_noFields
    (rest : List Char) :
    ReadsFields implicit (blanks ++ ')' :: rest) [] rest := by
  obtain ⟨shorter, next⟩ := nextChar_append (c := ')') allBlank (by decide) (by decide) rest
  rw [ReadsFields, fields?, next]
  simp only [Option.bind_eq_bind, Option.bind_some, if_true]
  exact ⟨_, rfl, rfl⟩

theorem reads_noEntries
    (rest : List Char) :
    ReadsEntries implicit (blanks ++ '\x7d' :: rest) [] rest := by
  obtain ⟨shorter, next⟩ := nextChar_append (c := '\x7d') allBlank (by decide) (by decide) rest
  rw [ReadsEntries, entries?, next]
  simp only [Option.bind_eq_bind, Option.bind_some, if_true]
  exact ⟨_, rfl, rfl⟩

end

theorem reads_item
    {items : List Ron}
    (begins : ∃ next, nextChar text = some next ∧ next.1 ≠ close)
    (item : Reads implicit text found (',' :: inner))
    (others : ReadsItems implicit close inner items rest) :
    ReadsItems implicit close text (found :: items) rest := by
  obtain ⟨⟨c, behindFirst⟩, next, notClose⟩ := begins
  obtain ⟨⟨behind, shorter⟩, item, left⟩ := item
  cases left
  rw [ReadsItems, items?, next]
  simp only [Option.bind_eq_bind, Option.bind_some, if_neg notClose, item, nextChar_cons (c := ',') (by decide) (by decide),
    if_true]
  exact finds_seenIn others (found :: ·) _

theorem reads_field
    {label behindLabel : List Char}
    {fields : List (List Char × Ron)}
    (begins : ∃ next, nextChar text = some next ∧ next.1 ≠ ')')
    (labelled : Finds (label? text) label behindLabel)
    (value : Reads implicit behindLabel found (',' :: inner))
    (others : ReadsFields implicit inner fields rest) :
    ReadsFields implicit text ((label, found) :: fields) rest := by
  obtain ⟨⟨c, behindFirst⟩, next, notClose⟩ := begins
  obtain ⟨⟨behindLabel, front⟩, labelled, rfl⟩ := labelled
  obtain ⟨⟨behind, shorter⟩, value, left⟩ := value
  cases left
  rw [ReadsFields, fields?, next]
  simp only [Option.bind_eq_bind, Option.bind_some, if_neg notClose, labelled, value,
    nextChar_cons (c := ',') (by decide) (by decide), if_true]
  exact finds_seenIn others ((label, found) :: ·) _

theorem reads_entry
    {key : Ron}
    {behindColon : List Char}
    {entries : List (Ron × Ron)}
    (begins : ∃ next, nextChar text = some next ∧ next.1 ≠ '\x7d')
    (named : Reads implicit text key (':' :: behindColon))
    (value : Reads implicit behindColon found (',' :: inner))
    (others : ReadsEntries implicit inner entries rest) :
    ReadsEntries implicit text ((key, found) :: entries) rest := by
  obtain ⟨⟨c, behindFirst⟩, next, notClose⟩ := begins
  obtain ⟨⟨behindKey, front⟩, named, left⟩ := named
  cases left
  obtain ⟨⟨behind, shorter⟩, value, left⟩ := value
  cases left
  rw [ReadsEntries, entries?, next]
  simp only [Option.bind_eq_bind, Option.bind_some, if_neg notClose, named, value,
    expect_cons (c := ':') (by decide) (by decide), nextChar_cons (c := ',') (by decide) (by decide), if_true]
  exact finds_seenIn others ((key, found) :: ·) _

theorem finds_record
    {label behindLabel : List Char}
    {fields : List (List Char × Ron)}
    (labelled : Finds (label? text) label behindLabel)
    (read : ReadsFields implicit text fields rest) :
    Finds (parts? implicit none text) (.record none fields) rest := by
  obtain ⟨behind, labelled, -⟩ := labelled
  rw [parts?, labelled, Option.isSome_some, if_pos rfl]
  exact finds_seenIn read (Ron.record none) _

/-! ## Written values -/

/-- The characters that no value begins with: those that begin comments and attributes, and those that end containers. -/
def noStarts : List Char := ['/', '#', ')', ']', '\x7d']

theorem not_mem_noStarts
    (begins : c.isDigit = true ∨ c = '-') :
    c ∉ noStarts := by
  have other {d : Char} (noDigit : d.isDigit = false) (noMinus : d ≠ '-') : c ≠ d :=
    ne_of_digit_or_minus begins noDigit noMinus
  simp [noStarts, other (d := '/') (by decide) (by decide), other (d := '#') (by decide) (by decide),
    other (d := ')') (by decide) (by decide), other (d := ']') (by decide) (by decide),
    other (d := '\x7d') (by decide) (by decide)]

theorem exists_write_eq_cons
    {value : Ron}
    (depth : Nat)
    (plain : value.Plain) :
    ∃ first further, value.write depth = first :: further ∧ isBlank first = false ∧ first ∉ noStarts := by
  cases value with
  | unit => exact ⟨_, _, rfl, by decide, by decide⟩
  | bool value => cases value <;> exact ⟨_, _, rfl, by decide, by decide⟩
  | int signed value =>
      obtain ⟨first, further, front, begins⟩ := exists_intText_eq_cons value
      exact ⟨first, further, front, isBlank_of_digit_or_minus begins, not_mem_noStarts begins⟩
  | float value =>
      rw [write]
      rcases floatText_cases value with ⟨-, written⟩ | ⟨-, written⟩ | ⟨-, written⟩ | finite
      · exact ⟨_, _, written, by decide, by decide⟩
      · exact ⟨_, _, written, by decide, by decide⟩
      · exact ⟨_, _, written, by decide, by decide⟩
      · obtain ⟨first, further, front, begins⟩ := exists_floatText_eq_cons finite
        exact ⟨first, further, front, isBlank_of_digit_or_minus begins, not_mem_noStarts begins⟩
  | string content => exact ⟨_, _, rfl, by decide, by decide⟩
  | present value => exact ⟨_, _, rfl, by decide, by decide⟩
  | list items => cases items <;> exact ⟨_, _, by rw [write], by decide, by decide⟩
  | record name fields =>
      cases name with
      | some name => exact plain.elim
      | none => rcases fields with _ | ⟨⟨label, value⟩, rest⟩ <;> exact ⟨_, _, by rw [write]; rfl, by decide, by decide⟩
  | map entries => rcases entries with _ | ⟨⟨key, value⟩, rest⟩ <;> exact ⟨_, _, by rw [write], by decide, by decide⟩
  | char _ | bare _ | absent | tuple _ _ => exact plain.elim

/-- The first character of a value, behind blanks, ends no container. -/
theorem exists_nextChar_write
    {value : Ron}
    (allBlank : ∀ c ∈ blanks, isBlank c = true)
    (depth : Nat)
    (plain : value.Plain)
    (ends : close ∈ noStarts)
    (rest : List Char) :
    ∃ next, nextChar (blanks ++ (value.write depth ++ rest)) = some next ∧ next.1 ≠ close := by
  obtain ⟨first, further, front, solid, starts⟩ := exists_write_eq_cons depth plain
  have other {d : Char} (ends : d ∈ noStarts) : first ≠ d := fun same => starts (same ▸ ends)
  obtain ⟨shorter, next⟩ := nextChar_append allBlank solid (other (by decide)) (further ++ rest)
  rw [front]
  exact ⟨_, next, other ends⟩

mutual

/-- The text of a value, with blanks in front of it, is read as this value. -/
theorem reads_write : (value : Ron) → (depth : Nat) → ∀ {blanks rest : List Char}, value.Plain →
    (∀ c ∈ blanks, isBlank c = true) → StopsAt isRawNameChar rest →
      Reads implicit (blanks ++ (value.write depth ++ rest)) value rest
  | .unit, _, _, rest, _, allBlank, _ => by
    rw [write]
    exact reads_unit allBlank rest
  | .bool value, depth, _, _, _, allBlank, stops => reads_bool allBlank value depth stops
  | .int signed number, _, _, _, plain, allBlank, stops => by
    rw [write, plain.1]
    exact reads_int allBlank plain.2 stops
  | .float number, _, _, _, plain, allBlank, stops => by
    rw [write]
    exact reads_float allBlank plain stops
  | .string content, _, _, rest, _, allBlank, _ => by
    rw [write]
    exact reads_string allBlank content rest
  | .present value, depth, _, rest, plain, allBlank, _ => by
    have inside := reads_write value depth plain (List.forall_mem_nil _)
      (stopsAt_mark (by decide : isRawNameChar ')' = false) rest)
    have read := reads_present allBlank inside
    simpa only [write, presentWord, List.cons_append, List.nil_append, List.append_assoc] using read
  | .list [], _, _, rest, _, allBlank, _ => by
    rw [write]
    exact reads_list allBlank (reads_noItems (List.forall_mem_nil _) (by decide) (by decide) rest)
  | .list (item :: items), depth, _, rest, plain, allBlank, _ => by
    have read := reads_list allBlank (reads_writeItems (item :: items) depth rest plain)
    simpa only [write, List.cons_append, List.nil_append, List.append_assoc] using read
  | .record none [], _, _, _, plain, _, _ => absurd rfl plain.1
  | .record none ((label, value) :: fields), depth, _, rest, plain, allBlank, _ => by
    -- Whether parentheses hold fields is told by the first label, before any field is read.
    have labelled := finds_label (isBlank_newLine (depth + 1)) plain.2.1
      (' ' :: (write (depth + 1) value ++ ',' :: (writeFields (depth + 1) fields ++ (newLine depth ++ ')' :: rest))))
    have inside := reads_writeFields ((label, value) :: fields) depth rest plain.2
    simp only [writeFields, List.cons_append, List.append_assoc] at inside
    have read := reads_parts allBlank (by nofun) (finds_record labelled inside)
    simpa only [write, writeFields, Option.getD_none, List.cons_append, List.nil_append, List.append_assoc] using read
  | .map [], _, _, rest, _, allBlank, _ => by
    rw [write]
    exact reads_map allBlank (reads_noEntries (List.forall_mem_nil _) rest)
  | .map (entry :: entries), depth, _, rest, plain, allBlank, _ => by
    have read := reads_map allBlank (reads_writeEntries (entry :: entries) depth rest plain)
    simpa only [write, List.cons_append, List.nil_append, List.append_assoc] using read

/-- The text of items, and the end of their list, is read as these items. -/
theorem reads_writeItems : (items : List Ron) → (depth : Nat) → (rest : List Char) → PlainItems items →
    ReadsItems implicit ']' (writeItems (depth + 1) items ++ (newLine depth ++ ']' :: rest)) items rest
  | [], depth, rest, _ => reads_noItems (isBlank_newLine depth) (by decide) (by decide) rest
  | item :: items, depth, rest, plain => by
    -- A comma follows every item, also the last one, so the end of the list is always read by itself.
    have inBlanks := isBlank_newLine (depth + 1)
    have others := reads_writeItems items depth rest plain.2
    have one := reads_write item (depth + 1) plain.1 inBlanks
      (stopsAt_mark (by decide : isRawNameChar ',' = false)
        (writeItems (depth + 1) items ++ (newLine depth ++ ']' :: rest)))
    have read := reads_item (exists_nextChar_write inBlanks (depth + 1) plain.1 (by decide) _) one others
    simpa only [writeItems, List.cons_append, List.append_assoc] using read

/-- The text of fields, and the end of their record, is read as these fields. -/
theorem reads_writeFields : (fields : List (List Char × Ron)) → (depth : Nat) → (rest : List Char) →
    PlainFields fields →
      ReadsFields implicit (writeFields (depth + 1) fields ++ (newLine depth ++ ')' :: rest)) fields rest
  | [], depth, rest, _ => reads_noFields (isBlank_newLine depth) rest
  | (label, value) :: fields, depth, rest, plain => by
    obtain ⟨isName, valuePlain, fieldsPlain⟩ := plain
    have inBlanks := isBlank_newLine (depth + 1)
    have labelled := finds_label inBlanks isName
      (' ' :: (write (depth + 1) value ++ ',' :: (writeFields (depth + 1) fields ++ (newLine depth ++ ')' :: rest))))
    have one := reads_write value (depth + 1) valuePlain isBlank_space
      (stopsAt_mark (by decide : isRawNameChar ',' = false)
        (writeFields (depth + 1) fields ++ (newLine depth ++ ')' :: rest)))
    have read := reads_field (exists_nextChar_name inBlanks isName _) labelled one
      (reads_writeFields fields depth rest fieldsPlain)
    simpa only [writeFields, List.cons_append, List.append_assoc] using read

/-- The text of entries, and the end of their map, is read as these entries. -/
theorem reads_writeEntries : (entries : List (Ron × Ron)) → (depth : Nat) → (rest : List Char) →
    PlainEntries entries →
      ReadsEntries implicit (writeEntries (depth + 1) entries ++ (newLine depth ++ '\x7d' :: rest)) entries rest
  | [], depth, rest, _ => reads_noEntries (isBlank_newLine depth) rest
  | (key, value) :: entries, depth, rest, plain => by
    obtain ⟨keyPlain, valuePlain, entriesPlain⟩ := plain
    have inBlanks := isBlank_newLine (depth + 1)
    have named := reads_write key (depth + 1) keyPlain inBlanks (stopsAt_mark (by decide : isRawNameChar ':' = false)
      (' ' :: (write (depth + 1) value ++
        ',' :: (writeEntries (depth + 1) entries ++ (newLine depth ++ '\x7d' :: rest)))))
    have one := reads_write value (depth + 1) valuePlain isBlank_space
      (stopsAt_mark (by decide : isRawNameChar ',' = false)
        (writeEntries (depth + 1) entries ++ (newLine depth ++ '\x7d' :: rest)))
    have read := reads_entry (exists_nextChar_write inBlanks (depth + 1) keyPlain (by decide) _) named one
      (reads_writeEntries entries depth rest entriesPlain)
    simpa only [writeEntries, List.cons_append, List.append_assoc] using read

end

/-- The text of a value is read as this value. -/
theorem read?_pretty
    {value : Ron}
    (implicit : Bool)
    (plain : value.Plain) :
    read? implicit value.pretty.toList = some value := by
  obtain ⟨first, further, front, solid, starts⟩ := exists_write_eq_cons 0 plain
  have other {d : Char} (ends : d ∈ noStarts) : first ≠ d := fun same => starts (same ▸ ends)
  have noAttributes : attributes? (value.write 0) = some ([], value.write 0) := by
    rw [front, attributes?, skipBlank_cons solid (other (by decide))]
    simp only [Option.bind_eq_bind, Option.bind_some, List.head?_cons, beq_iff_eq, Option.some.injEq,
      other (d := '#') (by decide), if_false]
  have reads : Reads implicit (value.write 0) value [] := by
    simpa only [List.nil_append, List.append_nil] using reads_write value 0 plain (List.forall_mem_nil _) stopsAt_nil
  obtain ⟨⟨behind, shorter⟩, read, left⟩ := reads
  cases left
  rw [pretty, String.toList_ofList, read?, noAttributes]
  simp only [Option.bind_eq_bind, Option.bind_some, List.contains_nil, Bool.or_false, read]
  rw [skipBlank]
  rfl

end Ron
end Parley
