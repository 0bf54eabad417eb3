import Mathlib
import Parley.Proofs.Json.Numerals
import Parley.Proofs.Json.Strings

/-!
# Reading written JSON

The text of a JSON value, with blanks between its parts, has an outline without faults, which shows the value as it is.
-/

namespace Parley
namespace Json

open Text (StopsAt stopsAt_nil stopsAt_cons_iff dropWhile_run)

variable {c close : Char} {blanks text inner rest behind behindName content : List Char} {found : Outline}
  {layout : Layout} {depth : Nat} {name : Option (List Char)}

/-! ## Outlines of values -/

mutual

/-- What is seen of the text of a value. -/
def seen : Json → Outline
  | .null => .null
  | .bool value => .bool value
  | .number numeral => .number numeral
  | .string text => .string (some text)
  | .array items => .array (seenItems items) none
  | .object members => .object (seenMembers members) none

/-- What is seen of the texts of items. -/
def seenItems : List Json → List Outline
  | [] => []
  | item :: rest => item.seen :: seenItems rest

/-- What is seen of the texts of members. -/
def seenMembers : List (List Char × Json) → List (Option (List Char) × Outline)
  | [] => []
  | (name, value) :: rest => (some name, value.seen) :: seenMembers rest

end

mutual

/-- All numerals in a value are as they may be written. -/
def Proper : Json → Prop
  | .number numeral => numeral.Proper
  | .array items => ProperItems items
  | .object members => ProperMembers members
  | _ => True

/-- All numerals in items are as they may be written. -/
def ProperItems : List Json → Prop
  | [] => True
  | item :: rest => item.Proper ∧ ProperItems rest

/-- All numerals in members are as they may be written. -/
def ProperMembers : List (List Char × Json) → Prop
  | [] => True
  | (_, value) :: rest => value.Proper ∧ ProperMembers rest

end

/-- A layout of blanks only. -/
structure Layout.Blank (layout : Layout) : Prop where
  lineBreak : ∀ depth, ∀ c ∈ layout.lineBreak depth, isBlank c = true
  afterColon : ∀ c ∈ layout.afterColon, isBlank c = true

theorem Layout.blank_pretty : Layout.pretty.Blank where
  lineBreak := by
    intro depth c member
    rcases List.mem_cons.mp member with rfl | padding
    · rfl
    · rw [List.eq_of_mem_replicate padding]
      rfl
  afterColon := by
    intro c member
    rw [List.mem_singleton.mp member]
    rfl

/-! ## What readers see -/

/-- A reader sees a value at the front of a text, and what follows it. -/
def Sees (text : List Char) (found : Outline) (rest : List Char) : Prop :=
  ∃ behind, readValue text = (found, some behind) ∧ behind.1 = rest

/-- A reader sees the items of an array up to its end, and what follows it. -/
def SeesItems (text : List Char) (found : List Outline) (rest : List Char) : Prop :=
  ∃ behind, readItems text = (found, none, some behind) ∧ behind.1 = rest

/-- A reader sees the members of an object up to its end, and what follows it. -/
def SeesMembers (text : List Char) (found : List (Option (List Char) × Outline)) (rest : List Char) : Prop :=
  ∃ behind, readMembers text = (found, none, some behind) ∧ behind.1 = rest

/-- A reader sees a name and a colon at the front of a text, and what follows them. -/
def SeesName (text : List Char) (name : Option (List Char)) (rest : List Char) : Prop :=
  ∃ behind, memberName text = .before name behind ∧ behind.1 = rest

theorem skipBlank_append
    (allBlank : ∀ c ∈ blanks, isBlank c = true)
    (solid : isBlank c = false)
    (rest : List Char) :
    ∃ le, skipBlank (blanks ++ c :: rest) = ⟨c :: rest, le⟩ :=
  ⟨by simp, Subtype.ext (dropWhile_run allBlank (stopsAt_cons_iff.mpr solid))⟩

theorem skipBlank_cons
    (solid : isBlank c = false)
    (rest : List Char) :
    skipBlank (c :: rest) = ⟨c :: rest, le_rfl⟩ :=
  Subtype.ext (Text.StopsAt.dropWhile_eq (stopsAt_cons_iff.mpr solid))

theorem sees_scalar
    (allBlank : ∀ c ∈ blanks, isBlank c = true)
    (solid : isBlank c = false)
    (notArray : c ≠ '[')
    (notObject : c ≠ '\x7b')
    (read : ∃ behind, scalar c inner = (found, some behind) ∧ behind.1 = rest) :
    Sees (blanks ++ c :: inner) found rest := by
  obtain ⟨le, skip⟩ := skipBlank_append allBlank solid inner
  obtain ⟨behind, read, rfl⟩ := read
  rw [Sees, readValue, skip]
  simp only [if_neg notArray, if_neg notObject, read]
  exact ⟨_, rfl, rfl⟩

theorem sees_emptyArray
    (allBlank : ∀ c ∈ blanks, isBlank c = true)
    (rest : List Char) :
    Sees (blanks ++ '[' :: ']' :: rest) (.array [] none) rest := by
  obtain ⟨le, skip⟩ := skipBlank_append (c := '[') allBlank (by decide) (']' :: rest)
  rw [Sees, readValue, skip]
  simp only [if_true, readArray, skipBlank_cons (c := ']') (by decide)]
  exact ⟨_, rfl, rfl⟩

theorem sees_array
    {items : List Outline}
    (allBlank : ∀ c ∈ blanks, isBlank c = true)
    (begins : ∃ first further, inner.dropWhile isBlank = first :: further ∧ first ≠ ']')
    (read : SeesItems inner items rest) :
    Sees (blanks ++ '[' :: inner) (.array items none) rest := by
  obtain ⟨le, skip⟩ := skipBlank_append (c := '[') allBlank (by decide) inner
  obtain ⟨first, further, front, notClose⟩ := begins
  have skipInner : skipBlank inner = ⟨first :: further, front ▸ Text.length_dropWhile_le isBlank inner⟩ :=
    Subtype.ext front
  obtain ⟨behind, read, rfl⟩ := read
  rw [Sees, readValue, skip]
  simp only [if_true, readArray, skipInner, if_neg notClose, read]
  exact ⟨_, rfl, rfl⟩

theorem sees_emptyObject
    (allBlank : ∀ c ∈ blanks, isBlank c = true)
    (rest : List Char) :
    Sees (blanks ++ '\x7b' :: '\x7d' :: rest) (.object [] none) rest := by
  obtain ⟨le, skip⟩ := skipBlank_append (c := '\x7b') allBlank (by decide) ('\x7d' :: rest)
  rw [Sees, readValue, skip]
  simp only [if_true, readObject, skipBlank_cons (c := '\x7d') (by decide), Char.reduceEq, if_false]
  exact ⟨_, rfl, rfl⟩

theorem sees_object
    {members : List (Option (List Char) × Outline)}
    (allBlank : ∀ c ∈ blanks, isBlank c = true)
    (begins : ∃ first further, inner.dropWhile isBlank = first :: further ∧ first ≠ '\x7d')
    (read : SeesMembers inner members rest) :
    Sees (blanks ++ '\x7b' :: inner) (.object members none) rest := by
  obtain ⟨le, skip⟩ := skipBlank_append (c := '\x7b') allBlank (by decide) inner
  obtain ⟨first, further, front, notClose⟩ := begins
  have skipInner : skipBlank inner = ⟨first :: further, front ▸ Text.length_dropWhile_le isBlank inner⟩ :=
    Subtype.ext front
  obtain ⟨behind, read, rfl⟩ := read
  rw [Sees, readValue, skip]
  simp only [if_true, readObject, skipInner, if_neg notClose, read, Char.reduceEq, if_false]
  exact ⟨_, rfl, rfl⟩

/-! ## Parts of containers -/

theorem separator_comma
    (close : Char)
    (rest : List Char) :
    separator close (',' :: rest) = .more ⟨rest, Text.length_lt_cons ',' rest⟩ := by
  rw [separator, skipBlank_cons (by decide)]
  rfl

theorem separator_close
    (allBlank : ∀ c ∈ blanks, isBlank c = true)
    (solid : isBlank close = false)
    (notComma : close ≠ ',')
    (rest : List Char) :
    ∃ shorter, separator close (blanks ++ close :: rest) = .closed ⟨rest, shorter⟩ := by
  obtain ⟨le, skip⟩ := skipBlank_append allBlank solid rest
  refine ⟨le, ?_⟩
  rw [separator, skip]
  simp only [if_neg notComma, if_true]

theorem seesItems_last
    (item : Sees text found (blanks ++ ']' :: rest))
    (allBlank : ∀ c ∈ blanks, isBlank c = true) :
    SeesItems text [found] rest := by
  obtain ⟨⟨behind, shorter⟩, read, rfl⟩ := item
  obtain ⟨closing, close⟩ := separator_close allBlank (by decide : isBlank ']' = false) (by decide) rest
  rw [SeesItems, readItems]
  simp only [read, close]
  exact ⟨_, rfl, rfl⟩

theorem seesItems_cons
    {further : List Outline}
    (item : Sees text found (',' :: inner))
    (others : SeesItems inner further rest) :
    SeesItems text (found :: further) rest := by
  obtain ⟨⟨behind, shorter⟩, read, rfl⟩ := item
  obtain ⟨last, readOthers, rfl⟩ := others
  rw [SeesItems, readItems]
  simp only [read, separator_comma, readOthers]
  exact ⟨_, rfl, rfl⟩

theorem seesMembers_last
    (named : SeesName text name behindName)
    (value : Sees behindName found (blanks ++ '\x7d' :: rest))
    (allBlank : ∀ c ∈ blanks, isBlank c = true) :
    SeesMembers text [(name, found)] rest := by
  obtain ⟨⟨behindName, front⟩, readName, rfl⟩ := named
  obtain ⟨⟨behind, shorter⟩, read, rfl⟩ := value
  obtain ⟨closing, close⟩ := separator_close allBlank (by decide : isBlank '\x7d' = false) (by decide) rest
  rw [SeesMembers, readMembers]
  simp only [readName, read, close]
  exact ⟨_, rfl, rfl⟩

theorem seesMembers_cons
    {further : List (Option (List Char) × Outline)}
    (named : SeesName text name behindName)
    (value : Sees behindName found (',' :: inner))
    (others : SeesMembers inner further rest) :
    SeesMembers text ((name, found) :: further) rest := by
  obtain ⟨⟨behindName, front⟩, readName, rfl⟩ := named
  obtain ⟨⟨behind, shorter⟩, read, rfl⟩ := value
  obtain ⟨last, readOthers, rfl⟩ := others
  rw [SeesMembers, readMembers]
  simp only [readName, read, separator_comma, readOthers]
  exact ⟨_, rfl, rfl⟩

theorem seesName_quote
    (allBlank : ∀ c ∈ blanks, isBlank c = true)
    (name rest : List Char) :
    SeesName (blanks ++ (quote name ++ ':' :: rest)) (some name) rest := by
  obtain ⟨le, skip⟩ :=
    skipBlank_append (c := '"') allBlank (by decide) (name.flatMap escape ++ '"' :: ':' :: rest)
  have front : quote name ++ ':' :: rest = '"' :: (name.flatMap escape ++ '"' :: ':' :: rest) := by
    simp [quote]
  rw [SeesName, front, memberName, skip]
  simp only [if_true]
  split
  · rename_i broken
    cases (quoted_flatMap_escape name (':' :: rest)).symm.trans broken
  · rename_i closed
    cases (quoted_flatMap_escape name (':' :: rest)).symm.trans closed
    simp only [skipBlank_cons (c := ':') (by decide), if_true]
    exact ⟨_, rfl, rfl⟩

/-! ## Values without parts -/

theorem wordValue_append
    (word : List Char)
    (meaning : Outline)
    (rest : List Char) :
    ∃ behind, wordValue (word ++ rest) word meaning = (meaning, some behind) ∧ behind.1 = rest := by
  have passed : Json.word word (word ++ rest) = .ok rest := by
    induction word with
    | nil => cases rest <;> rfl
    | cons c word inductionHypothesis => rw [List.cons_append, Json.word, if_pos rfl, inductionHypothesis]
  unfold wordValue
  split
  · rename_i read
    cases passed.symm.trans read
    exact ⟨_, rfl, rfl⟩
  · rename_i read
    cases passed.symm.trans read

theorem scalar_quote
    (content rest : List Char) :
    ∃ behind, scalar '"' (content.flatMap escape ++ '"' :: rest) = (.string (some content), some behind) ∧
      behind.1 = rest := by
  have closed := quoted_flatMap_escape content rest
  simp only [scalar, Char.reduceEq, if_false, if_true, stringValue]
  split
  · rename_i read
    cases closed.symm.trans read
    exact ⟨_, rfl, rfl⟩
  · rename_i read
    cases closed.symm.trans read

theorem sees_quote
    (allBlank : ∀ c ∈ blanks, isBlank c = true)
    (content rest : List Char) :
    Sees (blanks ++ (quote content ++ rest)) (.string (some content)) rest := by
  have front : quote content ++ rest = '"' :: (content.flatMap escape ++ '"' :: rest) := by simp [quote]
  rw [front]
  exact sees_scalar allBlank (by decide) (by decide) (by decide) (scalar_quote content rest)

theorem ne_of_isDigit
    {d : Char}
    (digit : c.isDigit = true)
    (other : d.isDigit = false) :
    c ≠ d := by
  rintro rfl
  cases digit.symm.trans other

theorem isBlank_of_isDigit
    (digit : c.isDigit = true) :
    isBlank c = false := by
  have space := ne_of_isDigit (d := ' ') digit (by decide)
  have line := ne_of_isDigit (d := '\n') digit (by decide)
  have tab := ne_of_isDigit (d := '\t') digit (by decide)
  have carriage := ne_of_isDigit (d := '\r') digit (by decide)
  simp [isBlank, space, line, tab, carriage]

theorem scalar_digit
    (digit : c.isDigit = true)
    (read : ∃ behind, numeralValue false (c :: inner) = (found, some behind) ∧ behind.1 = rest) :
    ∃ behind, scalar c inner = (found, some behind) ∧ behind.1 = rest := by
  obtain ⟨behind, read, rfl⟩ := read
  rw [scalar, if_neg (ne_of_isDigit digit (by decide)), if_neg (ne_of_isDigit digit (by decide)),
    if_neg (ne_of_isDigit digit (by decide)), if_neg (ne_of_isDigit digit (by decide)),
    if_neg (ne_of_isDigit digit (by decide)), if_pos digit, read]
  exact ⟨_, rfl, rfl⟩

theorem sees_numeral
    {numeral : Numeral}
    (allBlank : ∀ c ∈ blanks, isBlank c = true)
    (proper : numeral.Proper)
    (stops : StopsAt Numeral.goesOn rest) :
    Sees (blanks ++ (numeral.text ++ rest)) (.number numeral) rest := by
  have unsigned := Numeral.unsignedNumeral_append proper stops
  have read : ∃ behind, numeralValue numeral.negative
      (numeral.whole ++ (numeral.fractionText ++ (numeral.tail ++ rest))) = (.number numeral, some behind) ∧
        behind.1 = rest := by
    unfold numeralValue
    split
    · rename_i read
      cases unsigned.symm.trans read
      exact ⟨_, rfl, rfl⟩
    · rename_i read
      cases unsigned.symm.trans read
  rw [Numeral.text_append]
  cases negative : numeral.negative with
  | true =>
      rw [negative] at read
      rw [Numeral.signText, if_pos rfl, List.cons_append, List.nil_append]
      refine sees_scalar allBlank (by decide) (by decide) (by decide) ?_
      obtain ⟨behind, read, left⟩ := read
      simp only [scalar, Char.reduceEq, if_false, if_true, read]
      exact ⟨_, rfl, left⟩
  | false =>
      rw [negative] at read
      obtain ⟨first, further, whole⟩ := List.exists_cons_of_ne_nil proper.whole_ne_nil
      have digit : first.isDigit = true := proper.whole_digits first (whole ▸ List.mem_cons_self)
      rw [whole] at read ⊢
      exact sees_scalar allBlank (isBlank_of_isDigit digit) (ne_of_isDigit digit (by decide))
        (ne_of_isDigit digit (by decide)) (scalar_digit digit read)

theorem sees_word
    {word : List Char}
    (allBlank : ∀ c ∈ blanks, isBlank c = true)
    (solid : isBlank c = false)
    (notArray : c ≠ '[')
    (notObject : c ≠ '\x7b')
    (begins : scalar c (word ++ rest) = wordValue (word ++ rest) word found) :
    Sees (blanks ++ c :: (word ++ rest)) found rest :=
  sees_scalar allBlank solid notArray notObject (begins ▸ wordValue_append word found rest)

/-! ## Values with parts -/

theorem Layout.Blank.stopsAt
    (blank : layout.Blank)
    (depth : Nat)
    (closes : Numeral.goesOn close = false)
    (rest : List Char) :
    StopsAt Numeral.goesOn (layout.lineBreak depth ++ close :: rest) := by
  cases front : layout.lineBreak depth with
  | nil => exact stopsAt_cons_iff.mpr closes
  | cons c further =>
      have isBlank := blank.lineBreak depth c (front ▸ List.mem_cons_self)
      refine stopsAt_cons_iff.mpr ?_
      simp only [Json.isBlank, Bool.or_eq_true, beq_iff_eq] at isBlank
      rcases isBlank with ((rfl | rfl) | rfl) | rfl <;> decide

/-- The text of a value begins with a character that is neither a blank nor the end of an array. -/
theorem exists_write_eq_cons
    {value : Json}
    (layout : Layout)
    (depth : Nat)
    (proper : value.Proper) :
    ∃ first further, value.write layout depth = first :: further ∧ isBlank first = false ∧ first ≠ ']' := by
  cases value with
  | null => exact ⟨_, _, rfl, by decide, by decide⟩
  | bool value => cases value <;> exact ⟨_, _, rfl, by decide, by decide⟩
  | number numeral =>
      cases negative : numeral.negative with
      | true =>
          exact ⟨'-', _, by rw [write, Numeral.text, negative]; rfl, by decide, by decide⟩
      | false =>
          obtain ⟨first, further, whole⟩ := List.exists_cons_of_ne_nil proper.whole_ne_nil
          have digit : first.isDigit = true := proper.whole_digits first (whole ▸ List.mem_cons_self)
          exact ⟨first, _, by rw [write, Numeral.text, negative, whole]; rfl, isBlank_of_isDigit digit,
            ne_of_isDigit digit (by decide)⟩
  | string content => exact ⟨_, _, rfl, by decide, by decide⟩
  | array items => cases items <;> exact ⟨_, _, by rw [write], by decide, by decide⟩
  | object members =>
      rcases members with _ | ⟨⟨name, value⟩, rest⟩ <;> exact ⟨_, _, by rw [write], by decide, by decide⟩

theorem stopsAt_writeItems
    (blank : layout.Blank)
    (items : List Json)
    (depth : Nat)
    (rest : List Char) :
    StopsAt Numeral.goesOn (writeItems layout depth items ++ rest) := by
  cases items with
  | nil =>
      rw [writeItems, List.append_assoc]
      exact blank.stopsAt depth (by decide) rest
  | cons item items =>
      rw [writeItems]
      exact stopsAt_cons_iff.mpr (by decide)

theorem stopsAt_writeMembers
    (blank : layout.Blank)
    (members : List (List Char × Json))
    (depth : Nat)
    (rest : List Char) :
    StopsAt Numeral.goesOn (writeMembers layout depth members ++ rest) := by
  rcases members with _ | ⟨⟨name, value⟩, members⟩
  · rw [writeMembers, List.append_assoc]
    exact blank.stopsAt depth (by decide) rest
  · rw [writeMembers]
    exact stopsAt_cons_iff.mpr (by decide)

mutual

/-- The text of a value, with blanks in front of it, is seen as this value. -/
theorem sees_write (blank : layout.Blank) :
    (value : Json) → (depth : Nat) → ∀ {blanks rest : List Char}, value.Proper →
      (∀ c ∈ blanks, isBlank c = true) → StopsAt Numeral.goesOn rest →
        Sees (blanks ++ (value.write layout depth ++ rest)) value.seen rest
  | .null, _, _, _, _, allBlank, _ => by
    rw [write]
    exact sees_word allBlank (by decide) (by decide) (by decide) rfl
  | .bool true, _, _, _, _, allBlank, _ => by
    rw [write]
    exact sees_word allBlank (by decide) (by decide) (by decide) rfl
  | .bool false, _, _, _, _, allBlank, _ => by
    rw [write]
    exact sees_word allBlank (by decide) (by decide) (by decide) rfl
  | .number numeral, _, _, _, proper, allBlank, stops => by
    rw [write]
    exact sees_numeral allBlank proper stops
  | .string content, _, _, rest, _, allBlank, _ => by
    rw [write]
    exact sees_quote allBlank content rest
  | .array [], _, _, rest, _, allBlank, _ => by
    rw [write]
    exact sees_emptyArray allBlank rest
  | .array (item :: items), depth, _, rest, proper, allBlank, _ => by
    obtain ⟨itemProper, itemsProper⟩ := proper
    obtain ⟨first, further, front, solid, notClose⟩ := exists_write_eq_cons layout (depth + 1) itemProper
    have inBlanks := blank.lineBreak (depth + 1)
    have one := sees_write blank item (depth + 1) itemProper inBlanks (stopsAt_writeItems blank items depth rest)
    have begins : ∃ first further,
        (layout.lineBreak (depth + 1) ++ (write layout (depth + 1) item ++
          (writeItems layout depth items ++ rest))).dropWhile isBlank = first :: further ∧ first ≠ ']' := by
      rw [front, List.cons_append, dropWhile_run inBlanks (stopsAt_cons_iff.mpr solid)]
      exact ⟨_, _, rfl, notClose⟩
    have read := sees_array allBlank begins (items_write blank items itemsProper one)
    simpa only [write, seen, seenItems, List.cons_append, List.append_assoc] using read
  | .object [], _, _, rest, _, allBlank, _ => by
    rw [write]
    exact sees_emptyObject allBlank rest
  | .object ((name, value) :: members), depth, _, rest, proper, allBlank, _ => by
    obtain ⟨valueProper, membersProper⟩ := proper
    have inBlanks := blank.lineBreak (depth + 1)
    have named := seesName_quote inBlanks name
      (layout.afterColon ++ (write layout (depth + 1) value ++ (writeMembers layout depth members ++ rest)))
    have one := sees_write blank value (depth + 1) valueProper blank.afterColon
      (stopsAt_writeMembers blank members depth rest)
    have begins : ∃ first further,
        (layout.lineBreak (depth + 1) ++ (quote name ++ ':' :: (layout.afterColon ++ (write layout (depth + 1) value ++
          (writeMembers layout depth members ++ rest))))).dropWhile isBlank = first :: further ∧ first ≠ '\x7d' := by
      rw [quote, List.cons_append, dropWhile_run inBlanks (stopsAt_cons_iff.mpr (by decide))]
      exact ⟨_, _, rfl, by decide⟩
    have read := sees_object allBlank begins (members_write blank members membersProper named one)
    simpa only [write, seen, seenMembers, List.cons_append, List.append_assoc] using read

/-- What follows an item of an array is seen as the other items. -/
theorem items_write (blank : layout.Blank) :
    (items : List Json) → ∀ {depth : Nat} {text rest : List Char} {found : Outline}, ProperItems items →
      Sees text found (writeItems layout depth items ++ rest) → SeesItems text (found :: seenItems items) rest
  | [], depth, _, _, _, _, item => by
    rw [writeItems, List.append_assoc] at item
    exact seesItems_last item (blank.lineBreak depth)
  | next :: items, depth, _, rest, _, proper, item => by
    have one := sees_write blank next (depth + 1) proper.1 (blank.lineBreak (depth + 1))
      (stopsAt_writeItems blank items depth rest)
    simp only [writeItems, List.cons_append, List.append_assoc] at item
    exact seesItems_cons item (items_write blank items proper.2 one)

/-- What follows a member of an object is seen as the other members. -/
theorem members_write (blank : layout.Blank) :
    (members : List (List Char × Json)) → ∀ {depth : Nat} {text behindName rest : List Char}
      {name : Option (List Char)} {found : Outline}, ProperMembers members → SeesName text name behindName →
        Sees behindName found (writeMembers layout depth members ++ rest) →
          SeesMembers text ((name, found) :: seenMembers members) rest
  | [], depth, _, _, _, _, _, _, named, value => by
    rw [writeMembers, List.append_assoc] at value
    exact seesMembers_last named value (blank.lineBreak depth)
  | (nextName, next) :: members, depth, _, _, rest, _, _, proper, named, value => by
    have nextNamed := seesName_quote (blank.lineBreak (depth + 1)) nextName
      (layout.afterColon ++ (write layout (depth + 1) next ++ (writeMembers layout depth members ++ rest)))
    have one := sees_write blank next (depth + 1) proper.1 blank.afterColon
      (stopsAt_writeMembers blank members depth rest)
    simp only [writeMembers, List.cons_append, List.append_assoc] at value
    exact seesMembers_cons named value (members_write blank members proper.2 nextNamed one)

end

/-- The outline of the text of a value is the value as it is, with nothing behind it. -/
theorem outline_pretty
    {value : Json}
    (proper : value.Proper) :
    outline value.pretty.toList = (value.seen, false) := by
  have sees := sees_write Layout.blank_pretty value 0 proper (List.forall_mem_nil _) stopsAt_nil
  rw [List.nil_append, List.append_nil] at sees
  obtain ⟨⟨behind, shorter⟩, read, rfl⟩ := sees
  rw [pretty, String.toList_ofList, outline, read]
  rfl

end Json
end Parley
