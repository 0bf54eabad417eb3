import Parley.Proofs.Script.Places

/-!
# Passes over a script

The grammar gives every script its tokens in front of its first faulty lexeme, and the fault of that lexeme if there is one.
A pass of a reader, from the start of the script or from a reset on, hands out these tokens in order, then the fault, and
then nothing more.  What was called before the pass makes no difference.  Every token moves the reader forward, so that a pass
is no longer than the script.
-/

namespace Parley
namespace Script

variable {start : Position} {cs : List Char} {tokens : List Token} {token : Token} {error : LexError}
  {fault : Option LexError}

/-! ## What a script yields -/

/-- A text that begins at a position is a row of lexemes between trivia, up to a faulty lexeme or to its end.  These are the
tokens of the lexemes, and this is the fault, if there is one. -/
inductive Yields : Position → List Char → List Token → Option LexError → Prop where
  | ending {start : Position} {gap : List Char} : Ending gap → Yields start gap [] none
  | fault {start : Position} {gap rest : List Char} {error : LexError} :
      Trivia gap → FaultAt (start.afterAll gap) rest error → Yields start (gap ++ rest) [] (some error)
  | lexeme {start : Position} {gap source rest : List Char} {kind : TokenKind} {text : String} {tokens : List Token}
      {fault : Option LexError} :
      Trivia gap → LexemeOf source kind text → Apart rest → Yields (start.afterAll (gap ++ source)) rest tokens fault →
        Yields start (gap ++ (source ++ rest)) (⟨kind, text, start.afterAll gap⟩ :: tokens) fault

theorem Lexical.yields
    (lexical : Lexical start cs tokens) :
    Yields start cs tokens none := by
  induction lexical with
  | ending ending => exact .ending ending
  | lexeme trivia lexeme apart _ inductionHypothesis => exact .lexeme trivia lexeme apart inductionHypothesis

theorem Faulty.exists_yields
    (faulty : Faulty start cs error) :
    ∃ tokens, Yields start cs tokens (some error) := by
  induction faulty with
  | here trivia fault => exact ⟨[], .fault trivia fault⟩
  | later trivia lexeme apart _ inductionHypothesis =>
      obtain ⟨tokens, further⟩ := inductionHypothesis
      exact ⟨_ :: tokens, .lexeme trivia lexeme apart further⟩

/-- Every text yields something. -/
theorem exists_yields
    (start : Position)
    (cs : List Char) :
    ∃ tokens fault, Yields start cs tokens fault := by
  rcases lexical_or_faulty start cs with ⟨tokens, lexical⟩ | ⟨error, faulty⟩
  · exact ⟨tokens, none, lexical.yields⟩
  · obtain ⟨tokens, yields⟩ := faulty.exists_yields
    exact ⟨tokens, some error, yields⟩

/-! ## Reading what a script yields -/

/-- Tokens, and behind them a fault if there is one. -/
def items (tokens : List Token) (fault : Option LexError) : List (Except LexError Token) :=
  tokens.map .ok ++ fault.toList.map .error

/-- What is handed out is what the text yields. -/
theorem Yields.readings_eq
    (yields : Yields start cs tokens fault) :
    readings start cs = items tokens fault := by
  induction yields with
  | ending ending => exact readings_of_finished (scan_of_ending ending _)
  | fault trivia fault => exact readings_of_fault (scan_of_faultAt trivia fault)
  | lexeme trivia lexeme apart _ inductionHypothesis =>
      rw [readings_of_token (scan_of_lexemeOf trivia lexeme apart _), inductionHypothesis]
      rfl

/-- Read as a whole, a text gives its tokens if it yields no fault, and else the fault alone. -/
theorem Yields.tokensFrom_eq
    (yields : Yields start cs tokens fault) :
    tokensFrom start cs = fault.elim (.ok tokens) .error := by
  induction yields with
  | ending ending => exact tokensFrom_of_finished (scan_of_ending ending _)
  | fault trivia fault => exact tokensFrom_of_fault (scan_of_faultAt trivia fault)
  | @lexeme _ _ _ _ _ _ _ fault trivia lexeme apart _ inductionHypothesis =>
      rw [tokensFrom_of_token (scan_of_lexemeOf trivia lexeme apart _), inductionHypothesis]
      cases fault <;> rfl

/-- Every item has characters of its own. -/
theorem Yields.length_items_le
    (yields : Yields start cs tokens fault) :
    (items tokens fault).length ≤ cs.length := by
  induction yields with
  | ending _ => exact Nat.zero_le _
  | fault trivia fault =>
      obtain ⟨first, further, rfl, -⟩ := fault.exists_cons
      rw [List.length_append]
      exact (Nat.succ_le_succ (Nat.zero_le further.length)).trans (Nat.le_add_left _ _)
  | lexeme trivia lexeme apart _ inductionHypothesis =>
      have used := List.length_pos_iff.mpr lexeme.ne_nil
      simp only [items, List.map_cons, List.cons_append, List.length_cons, List.length_append] at inductionHypothesis ⊢
      omega

/-! ## How far a reader comes -/

namespace Lexer

variable {lexer : Lexer}

/-- A call for what is next finds nothing, or finds a fault and no more after it, or takes a lexeme off what is not read. -/
theorem next_cases
    (lexer : Lexer) :
    lexer.next = (none, lexer) ∨
      (∃ error, lexer.next = (some (.error error), { lexer with failed := true })) ∨
      ∃ gap source rest kind text, lexer.rest = gap ++ (source ++ rest) ∧ LexemeOf source kind text ∧
        lexer.next = (some (.ok ⟨kind, text, lexer.position.afterAll gap⟩),
          { lexer with position := lexer.position.afterAll (gap ++ source), rest }) := by
  obtain ⟨script, position, rest, failed⟩ := lexer
  cases failed with
  | true => exact .inl rfl
  | false =>
      simp only [next, Bool.false_eq_true, if_false]
      rcases scan_cases position rest with
        finished | ⟨gap, source, behind, kind, text, parts, lexeme, read⟩ | ⟨_, _, error, _, _, fault⟩
      · rw [finished]
        exact .inl rfl
      · rw [read]
        exact .inr (.inr ⟨gap, source, behind, kind, text, parts, lexeme, rfl⟩)
      · rw [fault]
        exact .inr (.inl ⟨error, rfl⟩)

/-- A token that is handed out does not begin in front of where the reader stood, and the reader stands behind that beginning
afterwards. -/
theorem offset_lt_of_next
    (handedOut : lexer.next.1 = some (.ok token)) :
    lexer.position.offset ≤ token.position.offset ∧ token.position.offset < lexer.next.2.position.offset := by
  rcases lexer.next_cases with none | ⟨error, fault⟩ | ⟨gap, source, rest, kind, text, -, lexeme, read⟩
  · rw [none] at handedOut
    cases handedOut
  · rw [fault] at handedOut
    cases handedOut
  · rw [read] at handedOut ⊢
    cases handedOut
    refine ⟨Position.offset_le_afterAll lexer.position gap, ?_⟩
    rw [Position.afterAll_append]
    exact Position.offset_lt_afterAll _ lexeme.ne_nil

/-- A reader stands at a place of its script: what it has not read is what is behind this place, and its position counts what
is in front. -/
def IsPlaced (lexer : Lexer) : Prop :=
  ∃ front, lexer.script.toList = front ++ lexer.rest ∧ lexer.position = Position.start.afterAll front

theorem isPlaced_ofScript
    (script : String) :
    (ofScript script).IsPlaced :=
  ⟨[], rfl, rfl⟩

theorem IsPlaced.perform
    (placed : lexer.IsPlaced)
    (call : Call) :
    (lexer.perform call).IsPlaced := by
  cases call with
  | reset => exact isPlaced_ofScript lexer.script
  | next =>
      obtain ⟨front, split, counted⟩ := placed
      rw [Lexer.perform]
      rcases lexer.next_cases with none | ⟨error, fault⟩ | ⟨gap, source, rest, kind, text, unread, -, read⟩
      · rw [none]
        exact ⟨front, split, counted⟩
      · rw [fault]
        exact ⟨front, split, counted⟩
      · rw [read]
        refine ⟨front ++ (gap ++ source), ?_, ?_⟩
        · simp only [split, unread, List.append_assoc]
        · rw [Position.afterAll_append .start front, ← counted]

/-- Whatever is called, a reader stands at a place of its script. -/
theorem IsPlaced.run
    (placed : lexer.IsPlaced)
    (calls : List Call) :
    (lexer.run calls).IsPlaced := by
  induction calls generalizing lexer with
  | nil => exact placed
  | cons call calls inductionHypothesis => exact inductionHypothesis (placed.perform call)

theorem IsPlaced.offset_le
    (placed : lexer.IsPlaced) :
    lexer.position.offset ≤ lexer.script.utf8ByteSize := by
  obtain ⟨front, split, counted⟩ := placed
  rw [counted, (Position.counts_afterAll front).offset_eq, ← String.ofList_toList (s := lexer.script), split,
    String.ofList_append, String.utf8ByteSize_append]
  exact Nat.le_add_right _ _

end Lexer

/-! ## Passes -/

open Lexer (Call ofScript progress)

/-- Every script yields tokens and at most one fault.  Whatever was called of a reader before, the item that it hands out next
is the one whose turn it is after so many calls for what is next since the start or the last reset: the tokens in order, then
the fault, and from then on nothing.  Read as a whole, the script gives these tokens, or the fault if there is one.  A call
that hands out a token moves the reader forward, never past the end of the script, and there are no more items than
characters. -/
theorem run_hands_out_items
    (script : String) :
    ∃ tokens fault, Yields .start script.toList tokens fault ∧
      (∀ calls, ((ofScript script).run calls).next.1 = (items tokens fault)[progress calls]?) ∧
      tokenize script = fault.elim (.ok tokens) .error ∧
      (∀ calls token, ((ofScript script).run calls).next.1 = some (.ok token) →
        ((ofScript script).run calls).position.offset < ((ofScript script).run (calls ++ [.next])).position.offset) ∧
      (∀ calls, ((ofScript script).run calls).position.offset ≤ script.utf8ByteSize) ∧
      (items tokens fault).length ≤ script.length := by
  obtain ⟨tokens, fault, yields⟩ := exists_yields .start script.toList
  refine ⟨tokens, fault, yields, fun calls => ?_, yields.tokensFrom_eq, fun calls token handedOut => ?_, fun calls => ?_, ?_⟩
  · rw [Lexer.next_run, yields.readings_eq]
  · obtain ⟨notBefore, behind⟩ := Lexer.offset_lt_of_next handedOut
    rw [Lexer.run_concat]
    exact notBefore.trans_lt behind
  · have within := ((Lexer.isPlaced_ofScript script).run calls).offset_le
    rwa [(Lexer.run_ofScript script calls).1] at within
  · rw [← String.length_toList]
    exact yields.length_items_le

/-- Two words, and behind a comment one that is none of the language. -/
def haltingScript : String := "update action # é\n b@d scene"

/-- The third call is answered with the fault and the ones after it with nothing, until a reset brings the first word back. -/
theorem run_haltingScript :
    ((ofScript haltingScript).run [.next, .next]).next.1 = some (.error (.unclassifiable "b@d" ⟨20, 2, 2⟩)) ∧
      ((ofScript haltingScript).run [.next, .next, .next]).next.1 = none ∧
      ((ofScript haltingScript).run [.next, .next, .next, .next]).next.1 = none ∧
      ((ofScript haltingScript).run [.next, .next, .next, .reset]).next.1 =
        some (.ok ⟨.command, "update", ⟨0, 1, 1⟩⟩) ∧
      ((ofScript haltingScript).run [.next, .next, .next, .reset]).position.offset <
        ((ofScript haltingScript).run ([.next, .next, .next, .reset] ++ [.next])).position.offset := by
  obtain ⟨_, _, _, -, -, forward, -, -⟩ := run_hands_out_items haltingScript
  have first : ((ofScript haltingScript).run [.next, .next, .next, .reset]).next.1 =
      some (.ok ⟨.command, "update", ⟨0, 1, 1⟩⟩) := by decide +kernel
  exact ⟨by decide +kernel, by decide +kernel, by decide +kernel, first, forward _ _ first⟩

end Script
end Parley
