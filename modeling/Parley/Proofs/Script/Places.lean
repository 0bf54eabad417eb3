import Parley.Proofs.Script.Readings

/-!
# Positions are exact

The position of a token or a fault is a place between two characters of the script, and it counts the bytes in front of
this place, the line feeds in front of it, and the characters since the last of them.  What stands there is the token's own
text, or the quote that opens a quoted text, or the text that the fault is reported with.  Positions only go forward.
-/

namespace Parley
namespace Script

variable {start position : Position} {script : String} {front cs source rest line : List Char} {c : Char}
  {kind : TokenKind} {text : String} {error : LexError}

/-! ## Counting -/

/-- A position counts what is in front of it. -/
structure Position.Counts (position : Position) (front : List Char) : Prop where
  /-- The bytes, in UTF-8. -/
  offset_eq : position.offset = (String.ofList front).utf8ByteSize
  /-- The line feeds, from one on. -/
  line_eq : position.line = 1 + front.count '\n'
  /-- The characters since the last line feed, from one on. -/
  column_eq : position.column = 1 + (front.reverse.takeWhile (· ≠ '\n')).length

/-- Columns count the characters since the last line feed. -/
theorem Position.column_afterAll
    (front : List Char) :
    (Position.start.afterAll front).column = 1 + (front.reverse.takeWhile (· ≠ '\n')).length := by
  induction front using List.reverseRecOn with
  | nil => rfl
  | append_singleton front c inductionHypothesis =>
      rw [afterAll_append, afterAll_cons, afterAll_nil, after, List.reverse_append, List.reverse_singleton,
        List.singleton_append, List.takeWhile_cons]
      by_cases lineFeed : c = '\n'
      · simp [lineFeed]
      · simp only [lineFeed, if_false, ne_eq, not_false_eq_true, decide_true, if_true, List.length_cons, inductionHypothesis]
        rfl

/-- The position behind characters counts them. -/
theorem Position.counts_afterAll
    (front : List Char) :
    (Position.start.afterAll front).Counts front := by
  obtain ⟨bytes, lines⟩ := offset_afterAll start front
  exact ⟨bytes.trans ((Nat.zero_add _).trans (String.utf8ByteSize_ofList front).symm), lines, column_afterAll front⟩

/-- Behind more characters there are more bytes. -/
theorem Position.offset_lt_afterAll
    (position : Position)
    (nonempty : source ≠ []) :
    position.offset < (position.afterAll source).offset := by
  obtain ⟨first, further, rfl⟩ := List.exists_cons_of_ne_nil nonempty
  have positive := first.utf8Size_pos
  rw [(offset_afterAll position _).1, String.utf8Len_cons]
  omega

theorem Position.offset_le_afterAll
    (position : Position)
    (cs : List Char) :
    position.offset ≤ (position.afterAll cs).offset := by
  rw [(offset_afterAll position cs).1]
  exact Nat.le_add_right _ _

/-! ## Places in a script -/

/-- A position is the place between two parts of a script, and counts what is in front of it. -/
structure Position.Marks (position : Position) (script : String) (front behind : List Char) : Prop where
  script_eq : script.toList = front ++ behind
  /-- The offset lies between two characters. -/
  boundary : String.Pos.Raw.IsValid script ⟨position.offset⟩
  counts : position.Counts front

theorem Position.marks_afterAll
    (split : script.toList = front ++ rest) :
    (Position.start.afterAll front).Marks script front rest where
  script_eq := split
  boundary := by
    refine String.Pos.Raw.isValid_iff_exists_append.mpr ⟨String.ofList front, String.ofList rest, ?_, ?_⟩
    · rw [← String.ofList_append, ← split, String.ofList_toList]
    · rw [String.Pos.Raw.ext_iff, (counts_afterAll front).offset_eq]
      rfl
  counts := counts_afterAll front

/-- A token stands in a script where its position says: a word as it is, a quoted text with the quote that opens it. -/
def Token.StandsIn (token : Token) (script : String) : Prop :=
  ∃ front behind, token.position.Marks script front behind ∧
    (token.kind = .text → ['"'] <+: behind) ∧ (token.kind ≠ .text → token.text.toList <+: behind)

/-- The text that a fault is reported with stands in a script where the fault's position says. -/
def LexError.StandsIn (error : LexError) (script : String) : Prop :=
  ∃ front behind, error.position.Marks script front behind ∧ error.text.toList <+: behind

/-! ## What stands there -/

theorem WordOf.kind_ne_text
    (ofWord : WordOf kind text) :
    kind ≠ .text := by
  cases ofWord <;> exact TokenKind.noConfusion

theorem LexemeOf.prefix_of
    (lexeme : LexemeOf source kind text)
    (rest : List Char) :
    (kind = .text → ['"'] <+: source ++ rest) ∧ (kind ≠ .text → text.toList <+: source ++ rest) := by
  cases lexeme with
  | word ofWord => exact ⟨fun isText => absurd isText ofWord.kind_ne_text, fun _ => List.prefix_append _ _⟩
  | text quoted => exact ⟨fun _ => List.prefix_append ['"'] _, fun noText => absurd rfl noText⟩

theorem FirstLine.prefix_of
    (first : FirstLine cs line) :
    line <+: cs := by
  cases first with
  | whole _ => exact List.prefix_rfl
  | lineFeed _ _ => exact List.prefix_append _ _
  | carriageReturn _ => exact List.prefix_append _ _

/-- A fault is reported with a text that stands in it, at the place where it stands. -/
theorem FaultAt.exists_place
    (fault : FaultAt start cs error) :
    ∃ front behind, cs = front ++ behind ∧ error.position = start.afterAll front ∧ error.text.toList <+: behind := by
  cases fault with
  | word solid noQuote apart unknown =>
      refine ⟨[], _, rfl, rfl, ?_⟩
      rw [LexError.text, String.toList_ofList]
      exact List.prefix_append _ _
  | @glued source text further rest quoted solid apart =>
      refine ⟨[], _, rfl, rfl, rest, ?_⟩
      rw [LexError.text, String.toList_ofList]
      simp
  | @escape source text rest written quoted unknown =>
      refine ⟨'"' :: source, '\\' :: written :: rest, rfl, rfl, ?_⟩
      rw [LexError.text, String.toList_ofList]
      exact List.prefix_append ['\\', written] rest
  | unclosed quoted tail first =>
      refine ⟨[], _, rfl, rfl, ?_⟩
      rw [LexError.text, String.toList_ofList]
      exact first.prefix_of

/-! ## One reading -/

/-- A token that is read stands where its position says, not in front of where reading began, and reading goes on behind it,
at a position that counts what is in front. -/
theorem standsIn_of_scan_token
    {token : Token}
    (split : script.toList = front ++ cs)
    (found : scan (Position.start.afterAll front) cs = .token token position rest) :
    token.StandsIn script ∧ (Position.start.afterAll front).offset ≤ token.position.offset ∧
      token.position.offset < position.offset ∧
        ∃ further, script.toList = further ++ rest ∧ position = Position.start.afterAll further := by
  rcases scan_cases (Position.start.afterAll front) cs with
    finished | ⟨gap, source, _, kind, text, rfl, lexeme, read⟩ | ⟨_, _, _, _, _, fault⟩
  · cases finished.symm.trans found
  · cases read.symm.trans found
    rw [← Position.afterAll_append, ← Position.afterAll_append]
    have atToken : script.toList = (front ++ gap) ++ (source ++ rest) := by rw [split, List.append_assoc]
    have atRest : script.toList = (front ++ (gap ++ source)) ++ rest := by simp only [split, List.append_assoc]
    refine ⟨⟨front ++ gap, source ++ rest, Position.marks_afterAll atToken, lexeme.prefix_of rest⟩, ?_, ?_,
      front ++ (gap ++ source), atRest, rfl⟩
    · rw [Position.afterAll_append]
      exact Position.offset_le_afterAll _ gap
    · rw [← List.append_assoc, Position.afterAll_append _ (front ++ gap)]
      exact Position.offset_lt_afterAll _ lexeme.ne_nil
  · cases fault.symm.trans found

/-- A fault that is found stands where its position says, not in front of where reading began. -/
theorem standsIn_of_scan_fault
    (split : script.toList = front ++ cs)
    (found : scan (Position.start.afterAll front) cs = .fault error) :
    error.StandsIn script ∧ (Position.start.afterAll front).offset ≤ error.position.offset := by
  rcases scan_cases (Position.start.afterAll front) cs with
    finished | ⟨_, _, _, _, _, _, _, read⟩ | ⟨gap, faulty, other, rfl, fault, read⟩
  · cases finished.symm.trans found
  · cases read.symm.trans found
  · cases read.symm.trans found
    obtain ⟨inFault, behind, rfl, place, shown⟩ := fault.exists_place
    have atFault : script.toList = (front ++ (gap ++ inFault)) ++ behind := by simp only [split, List.append_assoc]
    rw [← Position.afterAll_append, ← Position.afterAll_append] at place
    refine ⟨⟨front ++ (gap ++ inFault), behind, place ▸ Position.marks_afterAll atFault, shown⟩, ?_⟩
    rw [place, Position.afterAll_append]
    exact Position.offset_le_afterAll _ _

/-! ## All that is handed out -/

/-- A token or a fault stands in a script where its position says. -/
def StandsIn (script : String) : Except LexError Token → Prop
  | .ok token => token.StandsIn script
  | .error error => error.StandsIn script

/-- How many bytes are in front of a token or a fault. -/
def offsetOf : Except LexError Token → Nat
  | .ok token => token.position.offset
  | .error error => error.position.offset

/-- What a text has to be handed out stands in the script at its places, none of them in front of the text and each behind
the one before. -/
theorem readings_standIn
    (split : script.toList = front ++ cs)
    (counted : position = Position.start.afterAll front) :
    (∀ item ∈ readings position cs, StandsIn script item ∧ position.offset ≤ offsetOf item) ∧
      (readings position cs).Pairwise fun earlier later => offsetOf earlier < offsetOf later := by
  fun_induction readings position cs generalizing front with
  | case1 => exact ⟨List.forall_mem_nil _, List.Pairwise.nil⟩
  | case2 position cs error found =>
      subst counted
      exact ⟨List.forall_mem_singleton.mpr (standsIn_of_scan_fault split found), List.pairwise_singleton _ _⟩
  | case3 position cs token behind rest found _ inductionHypothesis =>
      subst counted
      obtain ⟨stands, notBefore, forward, further, splitBehind, countedBehind⟩ := standsIn_of_scan_token split found
      obtain ⟨all, increasing⟩ := inductionHypothesis splitBehind countedBehind
      constructor
      · refine List.forall_mem_cons.mpr ⟨⟨stands, notBefore⟩, fun item member => ?_⟩
        obtain ⟨itemStands, itemNotBefore⟩ := all item member
        exact ⟨itemStands, notBefore.trans (forward.le.trans itemNotBefore)⟩
      · exact List.pairwise_cons.mpr ⟨fun item member => forward.trans_le (all item member).2, increasing⟩

theorem readings_script
    (script : String) :
    (∀ item ∈ readings .start script.toList, StandsIn script item) ∧
      (readings .start script.toList).Pairwise fun earlier later => offsetOf earlier < offsetOf later := by
  have split : script.toList = [] ++ script.toList := rfl
  obtain ⟨all, increasing⟩ := readings_standIn split rfl
  exact ⟨fun item member => (all item member).1, increasing⟩

open Lexer (Call ofScript)

/-- Whatever a reader hands out, after any calls, stands in the script where its position says: the position is a place
between two characters, its offset the bytes, its line one more than the line feeds and its column one more than the characters
of the line in front of this place; there the script goes on with the text of the token, with the quote of a quoted text, or
with the text of the fault.  Without a reset in between, what is handed out later stands further behind.  The same holds of all
tokens of a script that is read as a whole, and of its fault. -/
theorem positions_exact
    (script : String) :
    (∀ calls item, ((ofScript script).run calls).next.1 = some item → StandsIn script item) ∧
    (∀ calls count earlier later, ((ofScript script).run calls).next.1 = some earlier →
      ((ofScript script).run (calls ++ List.replicate (count + 1) Call.next)).next.1 = some later →
        offsetOf earlier < offsetOf later) ∧
    (∀ tokens, tokenize script = .ok tokens →
      (∀ token ∈ tokens, token.StandsIn script) ∧
        tokens.Pairwise fun earlier later => earlier.position.offset < later.position.offset) ∧
    ∀ error, tokenize script = .error error → error.StandsIn script := by
  obtain ⟨all, increasing⟩ := readings_script script
  refine ⟨fun calls item handedOut => ?_, fun calls count earlier later first second => ?_, fun tokens read => ?_,
    fun error refused => ?_⟩
  · rw [Lexer.next_run] at handedOut
    exact all item (List.mem_of_getElem? handedOut)
  · rw [Lexer.next_run] at first second
    rw [Lexer.progress_append_replicate] at second
    obtain ⟨firstPlace, rfl⟩ := List.getElem?_eq_some_iff.mp first
    obtain ⟨secondPlace, rfl⟩ := List.getElem?_eq_some_iff.mp second
    exact List.pairwise_iff_getElem.mp increasing _ _ firstPlace secondPlace (by omega)
  · rcases readings_cases .start script.toList with ⟨others, row, readToo⟩ | ⟨_, _, _, refused⟩
    · cases read.symm.trans readToo
      rw [row] at all increasing
      rw [List.pairwise_map] at increasing
      exact ⟨fun token member => all (.ok token) (List.mem_map_of_mem member), increasing⟩
    · cases read.symm.trans refused
  · rcases readings_cases .start script.toList with ⟨_, _, read⟩ | ⟨others, fault, row, refusedToo⟩
    · cases refused.symm.trans read
    · cases refused.symm.trans refusedToo
      rw [row] at all
      exact all _ (List.mem_append_right _ (List.mem_singleton_self _))

/-- A comment and a quoted text of two lines, and behind them a word that is none of the language. -/
def windingScript : String := "# Är\n \"é\n\" scene b@d"

/-- The quoted text opens on the second line, the word behind it stands on the third, and the fault further on in that line. -/
theorem positions_windingScript :
    (∃ token, (ofScript windingScript).next.1 = some (.ok token) ∧ token.position = ⟨7, 2, 2⟩ ∧
      token.StandsIn windingScript) ∧
    (∃ earlier later, ((ofScript windingScript).run []).next.1 = some earlier ∧
      ((ofScript windingScript).run [.next]).next.1 = some later ∧ offsetOf earlier < offsetOf later) ∧
    tokenize windingScript = .error (.unclassifiable "b@d" ⟨19, 3, 9⟩) ∧
      LexError.StandsIn (.unclassifiable "b@d" ⟨19, 3, 9⟩) windingScript := by
  obtain ⟨stands, forward, -, faulty⟩ := positions_exact windingScript
  have first : ((ofScript windingScript).run []).next.1 = some (.ok ⟨.text, "é\n", ⟨7, 2, 2⟩⟩) := by decide +kernel
  have second : ((ofScript windingScript).run [.next]).next.1 = some (.ok ⟨.nodeType, "scene", ⟨13, 3, 3⟩⟩) := by
    decide +kernel
  have refused : tokenize windingScript = .error (.unclassifiable "b@d" ⟨19, 3, 9⟩) := by decide +kernel
  exact ⟨⟨_, first, rfl, stands [] _ first⟩, ⟨_, _, first, second, forward [] 0 _ _ first second⟩, refused,
    faulty _ refused⟩

end Script
end Parley
