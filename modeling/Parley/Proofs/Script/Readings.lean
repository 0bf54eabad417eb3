import Parley.Proofs.Script.Lexing

/-!
# Reading token by token

What a reader hands out is one fixed row for every script: the tokens up to the first fault, and then the fault.  A call for
what is next takes the first one off what is left of this row, and a reset brings the whole row back.
-/

namespace Parley
namespace Script

/-! ## The row that is handed out -/

/-- What a text that begins at a position has to be handed out: its tokens up to its first fault, and the fault. -/
def readings (position : Position) (cs : List Char) : List (Except LexError Token) :=
  match found : scan position cs with
  | .finished => []
  | .fault error => [.error error]
  | .token token position rest =>
    have := length_lt_of_scan found
    .ok token :: readings position rest
termination_by cs.length

variable {position behind : Position} {cs rest : List Char} {token : Token} {error : LexError}

theorem readings_of_finished
    (finished : scan position cs = .finished) :
    readings position cs = [] := by
  rw [readings]
  split <;> rename_i read <;> cases finished.symm.trans read
  rfl

theorem readings_of_fault
    (fault : scan position cs = .fault error) :
    readings position cs = [.error error] := by
  rw [readings]
  split <;> rename_i read <;> cases fault.symm.trans read
  rfl

theorem readings_of_token
    (first : scan position cs = .token token behind rest) :
    readings position cs = .ok token :: readings behind rest := by
  rw [readings]
  split <;> rename_i read <;> cases first.symm.trans read
  rfl

/-- What a text has to be handed out are its tokens, or some tokens and then its fault. -/
theorem readings_cases
    (position : Position)
    (cs : List Char) :
    (∃ tokens : List Token, readings position cs = tokens.map .ok ∧ tokensFrom position cs = .ok tokens) ∨
      ∃ (tokens : List Token) (error : LexError), readings position cs = tokens.map .ok ++ [.error error] ∧
        tokensFrom position cs = .error error := by
  fun_induction readings position cs with
  | case1 position cs finished => exact .inl ⟨[], rfl, tokensFrom_of_finished finished⟩
  | case2 position cs error fault => exact .inr ⟨[], error, rfl, tokensFrom_of_fault fault⟩
  | case3 position cs token behind rest first _ inductionHypothesis =>
      rw [tokensFrom_of_token first]
      rcases inductionHypothesis with ⟨tokens, further, read⟩ | ⟨tokens, error, further, read⟩
      · rw [further, read]
        exact .inl ⟨token :: tokens, rfl, rfl⟩
      · rw [further, read]
        exact .inr ⟨token :: tokens, error, rfl, rfl⟩

/-- What comes next in a text is nothing, or a lexeme behind trivia, or a fault behind trivia. -/
theorem scan_cases
    (start : Position)
    (cs : List Char) :
    scan start cs = .finished ∨
      (∃ gap source rest kind text, cs = gap ++ (source ++ rest) ∧ LexemeOf source kind text ∧
        scan start cs = .token ⟨kind, text, start.afterAll gap⟩ (start.afterAll (gap ++ source)) rest) ∨
      ∃ gap rest error, cs = gap ++ rest ∧ FaultAt (start.afterAll gap) rest error ∧ scan start cs = .fault error := by
  rcases ending_or_trivia cs with ending | ⟨gap, first, rest, rfl, trivia, notSeparator⟩
  · exact .inl (scan_of_ending ending start)
  · rcases lexeme_or_fault notSeparator rest (start.afterAll gap) with
      ⟨source, kind, text, behind, parts, lexeme, apart⟩ | ⟨error, fault⟩
    · rw [parts]
      exact .inr (.inl ⟨gap, source, behind, kind, text, rfl, lexeme, scan_of_lexemeOf trivia lexeme apart start⟩)
    · exact .inr (.inr ⟨gap, first :: rest, error, rfl, fault, scan_of_faultAt trivia fault⟩)

namespace Lexer

/-! ## Calls to a reader -/

/-- A call to a reader. -/
inductive Call where
  | next
  | reset

/-- The reader after a call. -/
def perform (lexer : Lexer) : Call → Lexer
  | .next => lexer.next.2
  | .reset => lexer.reset

/-- The reader after calls one after another. -/
def run (lexer : Lexer) (calls : List Call) : Lexer := calls.foldl perform lexer

/-- How often a reader was called for what is next since it was last at the start of its script. -/
def progress (calls : List Call) : Nat :=
  calls.foldl (fun count call => match call with
    | .next => count + 1
    | .reset => 0) 0

theorem run_concat
    (lexer : Lexer)
    (calls : List Call)
    (call : Call) :
    lexer.run (calls ++ [call]) = (lexer.run calls).perform call :=
  List.foldl_append

theorem progress_concat_next
    (calls : List Call) :
    progress (calls ++ [.next]) = progress calls + 1 :=
  List.foldl_append

theorem progress_concat_reset
    (calls : List Call) :
    progress (calls ++ [.reset]) = 0 :=
  List.foldl_append

theorem progress_append_replicate
    (calls : List Call)
    (count : Nat) :
    progress (calls ++ List.replicate count .next) = progress calls + count := by
  induction count with
  | zero => rw [List.replicate_zero, List.append_nil, Nat.add_zero]
  | succ count inductionHypothesis =>
      rw [List.replicate_succ', ← List.append_assoc, progress_concat_next, inductionHypothesis, Nat.add_assoc]

/-! ## What is left -/

/-- What a reader has still to hand out. -/
def ahead (lexer : Lexer) : List (Except LexError Token) :=
  if lexer.failed then [] else readings lexer.position lexer.rest

theorem ahead_ofScript
    (script : String) :
    (ofScript script).ahead = readings .start script.toList :=
  if_neg Bool.false_ne_true

/-- A call for what is next takes it off the front of what is left. -/
theorem next_eq
    (lexer : Lexer) :
    lexer.next.1 = lexer.ahead.head? ∧ lexer.next.2.ahead = lexer.ahead.tail ∧
      lexer.next.2.script = lexer.script := by
  obtain ⟨script, position, rest, failed⟩ := lexer
  cases failed with
  | true => exact ⟨rfl, rfl, rfl⟩
  | false =>
      simp only [next, ahead, Bool.false_eq_true, if_false]
      cases found : scan position rest with
      | finished =>
          rw [readings_of_finished found]
          exact ⟨rfl, rfl, rfl⟩
      | fault error =>
          rw [readings_of_fault found]
          exact ⟨rfl, rfl, rfl⟩
      | token token behind further =>
          rw [readings_of_token found]
          exact ⟨rfl, rfl, rfl⟩

/-- After any calls a reader has still its script, and the row of that script but for what was handed out since the start. -/
theorem run_ofScript
    (script : String)
    (calls : List Call) :
    ((ofScript script).run calls).script = script ∧
      ((ofScript script).run calls).ahead = (readings .start script.toList).drop (progress calls) := by
  induction calls using List.reverseRecOn with
  | nil => exact ⟨rfl, ahead_ofScript script⟩
  | append_singleton calls call inductionHypothesis =>
      obtain ⟨sameScript, left⟩ := inductionHypothesis
      rw [run_concat]
      cases call with
      | next =>
          obtain ⟨-, taken, kept⟩ := next_eq ((ofScript script).run calls)
          rw [progress_concat_next, ← List.tail_drop, ← left]
          exact ⟨kept.trans sameScript, taken⟩
      | reset =>
          have fresh : ((ofScript script).run calls).reset = ofScript script := by rw [reset, sameScript]
          rw [progress_concat_reset, perform, fresh]
          exact ⟨rfl, ahead_ofScript script⟩

/-- What is handed out after any calls is the element of the row of the script that its turn has come to. -/
theorem next_run
    (script : String)
    (calls : List Call) :
    ((ofScript script).run calls).next.1 = (readings .start script.toList)[progress calls]? := by
  rw [(next_eq _).1, (run_ofScript script calls).2, List.head?_drop]

end Lexer
end Script
end Parley
