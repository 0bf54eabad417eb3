import Mathlib.Data.List.Basic
import Mathlib.Data.String.Basic
import Parley.Draft
import Parley.Script.Lexer
import Parley.Script.Parser

/-!
# Scripts behind other scripts

A script that stands behind another one, and a line feed, begins that many bytes and lines further on, and its statements
are counted on from those in front.  Columns stay as they are.
-/

namespace Parley
namespace Script

/-- How far a text begins behind the start of the one that it stands in. -/
structure Lead where
  bytes : Nat
  /-- How many line feeds are in front. -/
  lines : Nat

/-- The lead of a text and a line feed behind it. -/
def Lead.of (front : String) : Lead := ⟨front.utf8ByteSize + 1, front.toList.count '\n' + 1⟩

variable {lead : Lead} {count : Nat}

/-! ## Positions -/

namespace Position

/-- The place in a text as one in the text that it stands in. -/
def shift (lead : Lead) (position : Position) : Position :=
  ⟨lead.bytes + position.offset, lead.lines + position.line, position.column⟩

@[simp] theorem after_shift
    (lead : Lead)
    (position : Position)
    (c : Char) :
    (position.shift lead).after c = (position.after c).shift lead := by
  unfold after shift
  split <;> simp only [Nat.add_assoc]

@[simp] theorem afterAll_shift
    (lead : Lead)
    (position : Position)
    (cs : List Char) :
    (position.shift lead).afterAll cs = (position.afterAll cs).shift lead := by
  induction cs generalizing position with
  | nil => rfl
  | cons c rest inductionHypothesis => rw [afterAll_cons, afterAll_cons, after_shift, inductionHypothesis]

/-- Behind a text there are its bytes and its line feeds. -/
theorem offset_afterAll
    (position : Position)
    (cs : List Char) :
    (position.afterAll cs).offset = position.offset + String.utf8Len cs ∧
      (position.afterAll cs).line = position.line + cs.count '\n' := by
  induction cs generalizing position with
  | nil => exact ⟨rfl, rfl⟩
  | cons c rest inductionHypothesis =>
      obtain ⟨bytes, lines⟩ := inductionHypothesis (position.after c)
      rw [afterAll_cons, bytes, lines, String.utf8Len_cons, List.count_cons, after]
      split
      · rename_i lineFeed
        subst lineFeed
        simp only [beq_self_eq_true, if_true]
        omega
      · rename_i other
        simp only [beq_eq_false_iff_ne.mpr other, Bool.false_eq_true, if_false]
        omega

/-- Behind a text and a line feed a script begins, at the lead of the text. -/
theorem start_afterAll_lineFeed
    (front : String) :
    start.afterAll (front.toList ++ ['\n']) = start.shift (.of front) := by
  obtain ⟨bytes, lines⟩ := offset_afterAll start front.toList
  rw [String.utf8Len_toList] at bytes
  rw [afterAll_append, afterAll_cons, afterAll_nil, after, if_pos rfl, bytes, lines]
  simp only [start, shift, Lead.of, Position.mk.injEq]
  exact ⟨by rw [Nat.zero_add]; rfl, by omega, trivial⟩

end Position

/-! ## Tokens, statements and faults -/

/-- The token of a script as one of the script that it stands in. -/
def Token.shift (lead : Lead) (token : Token) : Token := { token with position := token.position.shift lead }

/-- The lexical fault of a script as one of the script that it stands in. -/
def LexError.shift (lead : Lead) : LexError → LexError
  | .unclassifiable text position => .unclassifiable text (position.shift lead)
  | .unterminatedText text position => .unterminatedText text (position.shift lead)
  | .badEscape text position => .badEscape text (position.shift lead)

/-- The statement of a script as one of the script that it stands in, behind a number of others. -/
def Statement.shift (lead : Lead) (count : Nat) (statement : Statement) : Statement :=
  { statement with index := count + statement.index, position := statement.position.shift lead }

/-- The faulty statement of a script as one of the script that it stands in, behind a number of others. -/
def ParseError.shift (lead : Lead) (count : Nat) (error : ParseError) : ParseError where
  index := count + error.index
  expected := error.expected
  found := error.found.map (Token.shift lead)
  position := error.position.map (Position.shift lead)

end Script

/-- The refused statement of a script as one of the script that it stands in, behind a number of others. -/
def BuildError.shift (count : Nat) : BuildError → BuildError
  | .duplicateId index kind id => .duplicateId (count + index) kind id
  | .notFound index verb kind id => .notFound (count + index) verb kind id
  | .incomplete index verb kind missing => .incomplete (count + index) verb kind missing

end Parley
