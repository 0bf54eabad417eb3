import Parley.Ron.Scalar

/-!
# Reading RON

A text is read in one pass.  A name is followed by the parts of a record or a tuple in parentheses, or stands alone.
Texts may begin with attributes that switch on extensions of the notation; of these, the one that reads any value as an
optional value changes how values are read.

The notation is that of `ron` 0.8, whose reader takes a comma behind the last part, comments, raw strings and raw names, and
the words `inf` and `NaN` for floating-point numbers.  Numbers with a point are read with one exact rounding.  Nesting is not
limited here: the limit counts the parts of the type that is read, and so it is left to the decoders.
-/

namespace Parley
namespace Ron

open Text (Remainder Rest)

/-- A value, and what follows it. -/
abbrev Seen (α : Type) (text : List Char) := Option (α × Rest text)

/-- A value of what was read, which is left of a longer text. -/
def seenIn {α β : Type} {shorter longer : List Char} (change : α → β) (found : Seen α shorter)
    (le : shorter.length ≤ longer.length) : Seen β longer :=
  found.map fun (value, rest) => (change value, rest.widen le)

/-- The value that a word of the notation stands for. -/
def wordMeaning? (word : List Char) : Option Ron :=
  if word = ['t', 'r', 'u', 'e'] then some (.bool true)
  else if word = ['f', 'a', 'l', 's', 'e'] then some (.bool false)
  else if word = ['N', 'o', 'n', 'e'] then some .absent
  else if word = ['i', 'n', 'f'] then some (.float .infinity)
  else if word = ['N', 'a', 'N'] then some (.float .notANumber)
  else none

/-- The word in front of an optional value. -/
def presentWord : List Char := ['S', 'o', 'm', 'e']

/-- Read a value that begins with some character and has no name and no parts. -/
def scalar? (c : Char) (rest : List Char) : Seen Ron (c :: rest) :=
  if c = '"' then seenIn .string (string? rest) (Text.length_le_cons c rest)
  else if c = 'r' then
    (rawQuoted? rest).map fun (content, behind) => (.string content, behind.within (Text.length_lt_cons c rest))
  else if c = '\'' then seenIn .char (char? rest) (Text.length_le_cons c rest)
  else if c = '.' then (floatValue? (c :: rest)).bind (partOf? (c :: rest))
  else if c.isDigit || c = '+' || c = '-' then number? (c :: rest)
  else none

/-- Read a label: a name and a colon. -/
def label? (text : List Char) : Seen (List Char) text := do
  let ⟨first, _⟩ ← skipBlank text
  let (_, label, ⟨behind, _⟩) ← name? first
  let rest ← expect ':' behind
  return (label, rest.widen (by omega))

mutual

/-- Read a value, with any value standing for an optional one or not. -/
def value? (implicit : Bool) (text : List Char) : Seen Ron text := do
  let (c, ⟨rest, left⟩) ← nextChar text
  match name? (c :: rest) with
  | some (raw, name, ⟨behind, shorter⟩) =>
    have : behind.length ≤ rest.length := Nat.le_of_lt_succ shorter
    if !raw && name == presentWord then seenIn .present (present? implicit behind) (by omega)
    else
      match if raw then none else wordMeaning? name with
      | some meaning => some (meaning, ⟨behind, by omega⟩)
      | none =>
        match expect '(' behind with
        | some ⟨inner, _⟩ => seenIn id (parts? implicit (some name) inner) (by omega)
        | none => some (.bare name, ⟨behind, by omega⟩)
  | none =>
    if c = '(' then
      if rest.head? == some ')' then some (.unit, ⟨rest.tail, by simp; omega⟩)
      else seenIn id (parts? implicit none rest) (by omega)
    else if c = '[' then seenIn .list (items? implicit ']' rest) (by omega)
    else if c = '\x7b' then seenIn .map (entries? implicit rest) (by omega)
    else seenIn id (scalar? c rest) (Text.length_cons_le c left)
termination_by 3 * text.length

/-- Read an optional value from behind the word in front of it. -/
def present? (implicit : Bool) (text : List Char) : Seen Ron text := do
  let (c, ⟨rest, _⟩) ← nextChar text
  if c = '(' then
    let (found, ⟨behind, _⟩) ← value? implicit rest
    let (d, ⟨next, _⟩) ← nextChar behind
    if d = ')' then some (found, ⟨next, by omega⟩)
    else if d = ',' then
      let close ← expect ')' next
      return (found, close.widen (by omega))
    else none
  else if implicit then value? implicit text
  else none
termination_by 3 * text.length + 1

/-- Read the parts in parentheses, which all have labels or all have none. -/
def parts? (implicit : Bool) (name : Option (List Char)) (text : List Char) : Seen Ron text :=
  if (label? text).isSome then seenIn (.record name) (fields? implicit text) (Nat.le_refl _)
  else seenIn (.tuple name) (items? implicit ')' text) (Nat.le_refl _)
termination_by 3 * text.length + 2

/-- Read items up to the end of their container. -/
def items? (implicit : Bool) (close : Char) (text : List Char) : Seen (List Ron) text := do
  let (c, ⟨inner, _⟩) ← nextChar text
  if c = close then some ([], ⟨inner, by omega⟩)
  else
    let (item, ⟨rest, _⟩) ← value? implicit text
    let (d, ⟨behind, _⟩) ← nextChar rest
    if d = ',' then seenIn (item :: ·) (items? implicit close behind) (by omega)
    else if d = close then some ([item], ⟨behind, by omega⟩)
    else none
termination_by 3 * text.length + 1

/-- Read the fields of a record up to its end. -/
def fields? (implicit : Bool) (text : List Char) : Seen (List (List Char × Ron)) text := do
  let (c, ⟨inner, _⟩) ← nextChar text
  if c = ')' then some ([], ⟨inner, by omega⟩)
  else
    let (label, ⟨behindLabel, _⟩) ← label? text
    let (found, ⟨rest, _⟩) ← value? implicit behindLabel
    let (d, ⟨behind, _⟩) ← nextChar rest
    if d = ',' then seenIn ((label, found) :: ·) (fields? implicit behind) (by omega)
    else if d = ')' then some ([(label, found)], ⟨behind, by omega⟩)
    else none
termination_by 3 * text.length + 1

/-- Read the entries of a map up to its end. -/
def entries? (implicit : Bool) (text : List Char) : Seen (List (Ron × Ron)) text := do
  let (c, ⟨inner, _⟩) ← nextChar text
  if c = '\x7d' then some ([], ⟨inner, by omega⟩)
  else
    let (key, ⟨behindKey, _⟩) ← value? implicit text
    let ⟨behindColon, _⟩ ← expect ':' behindKey
    let (found, ⟨rest, _⟩) ← value? implicit behindColon
    let (d, ⟨behind, _⟩) ← nextChar rest
    if d = ',' then seenIn ((key, found) :: ·) (entries? implicit behind) (by omega)
    else if d = '\x7d' then some ([(key, found)], ⟨behind, by omega⟩)
    else none
termination_by 3 * text.length + 1

end

/-! ## Attributes -/

/-- The extension that reads any value as an optional value. -/
def implicitWord : List Char := "implicit_some".toList

/-- The extensions of the notation. -/
def extensionWords : List (List Char) :=
  [implicitWord, "unwrap_newtypes".toList, "unwrap_variant_newtypes".toList]

/-- Go past some characters, with blanks in front of them. -/
def expectWord (word : List Char) (text : List Char) : Option (Remainder text) := do
  let ⟨rest, _⟩ ← skipBlank text
  if word.isPrefixOf rest then some ⟨rest.drop word.length, by simp; omega⟩ else none

/-- Go past several groups of characters, with blanks in front of them. -/
def expectWords : (words : List (List Char)) → (text : List Char) → Option (Remainder text)
  | [], text => some ⟨text, Nat.le_refl _⟩
  | word :: words, text => do
    let ⟨rest, le⟩ ← expectWord word text
    (expectWords words rest).map (·.widen le)

/-- Read the names of extensions. -/
def extensions? (text : List Char) : Seen (List (List Char)) text := do
  let ⟨first, _⟩ ← skipBlank text
  let (_, extension, ⟨behind, _⟩) ← name? first
  if !extensionWords.contains extension then none
  else
    let (c, ⟨rest, _⟩) ← nextChar behind
    if c = ',' then
      let ⟨next, _⟩ ← skipBlank rest
      if next.head?.any isNameChar then seenIn (extension :: ·) (extensions? next) (by omega)
      else some ([extension], ⟨rest, by omega⟩)
    else some ([extension], ⟨behind, by omega⟩)
termination_by text.length

/-- Read the attributes at the front of a text: the extensions that they switch on, and what follows them. -/
def attributes? (text : List Char) : Option (List (List Char) × List Char) := do
  let ⟨next, _⟩ ← skipBlank text
  if next.head? == some '#' then
    let ⟨first, _⟩ ← expectWords ["#".toList, "!".toList, "[".toList, "enable".toList, "(".toList] next
    let (found, ⟨behind, _⟩) ← extensions? first
    let ⟨rest, _⟩ ← expectWords [")".toList, "]".toList] behind
    (attributes? rest).map fun (further, value) => (found ++ further, value)
  else some ([], next)
termination_by text.length

/-- Read a text that holds one value and nothing else. -/
def read? (implicit : Bool) (text : List Char) : Option Ron := do
  let (extensions, rest) ← attributes? text
  let (found, behind) ← value? (implicit || extensions.contains implicitWord) rest
  let ⟨last, _⟩ ← skipBlank behind.1
  if last.isEmpty then some found else none

end Ron
end Parley
