import Parley.Proofs.Script.Lead
import Parley.Proofs.Script.Tokens
import Parley.Proofs.Stages

/-!
# Tokens of a script behind another one

Reading depends on where a text begins only in the positions that it gives.  A text that is read to its end, with a line
feed behind it, is read in the same way, and leaves a following text to be read from its own beginning: no word, quoted
text or comment goes on over the line feed.
-/

namespace Parley
namespace Script

open Text (isBlank)

variable {lead : Lead} {position start : Position} {cs rest behind : List Char} {token : Token}

/-! ## A text that begins elsewhere -/

theorem skipTrivia_shift
    (lead : Lead)
    (inComment : Bool)
    (position : Position)
    (cs : List Char) :
    skipTrivia inComment (position.shift lead) cs =
      ((skipTrivia inComment position cs).1.shift lead, (skipTrivia inComment position cs).2) := by
  induction cs generalizing inComment position with
  | nil => simp only [skipTrivia]
  | cons c rest inductionHypothesis =>
      cases inComment with
      | true => rw [skipTrivia, Position.after_shift, inductionHypothesis, skipTrivia]
      | false =>
          rw [skipTrivia, skipTrivia, Position.after_shift, inductionHypothesis, inductionHypothesis]
          split
          · rfl
          · split <;> rfl

/-- The quotation in a text as one in the text that it stands in. -/
def Quotation.shift (lead : Lead) : Quotation → Quotation
  | .closed text position rest => .closed text (position.shift lead) rest
  | .badEscape position escaped => .badEscape (position.shift lead) escaped
  | .unclosed => .unclosed

theorem Quotation.push_shift
    (quotation : Quotation)
    (c : Char) :
    (quotation.shift lead).push c = (quotation.push c).shift lead := by
  cases quotation <;> rfl

theorem quotation_shift
    (lead : Lead)
    (position : Position)
    (cs : List Char) :
    quotation (position.shift lead) cs = (quotation position cs).shift lead := by
  fun_induction quotation position cs with
  | case1 => rfl
  | case2 => rfl
  | case3 position escaped rest c known inductionHypothesis =>
      rw [quotation, known]
      simp only [Position.after_shift, inductionHypothesis, Quotation.push_shift]
  | case4 position escaped rest unknown =>
      rw [quotation, unknown]
      rfl
  | case5 position rest =>
      rw [quotation_quote, Position.after_shift]
      rfl
  | case6 position c rest noBackslash escapes noQuote inductionHypothesis =>
      rw [quotation, if_neg noQuote, Position.after_shift, inductionHypothesis, Quotation.push_shift]
      · exact noBackslash
      · exact escapes

/-- What comes next in a text, as in the text that it stands in. -/
def Scan.shift (lead : Lead) : Scan → Scan
  | .finished => .finished
  | .token token position rest => .token (token.shift lead) (position.shift lead) rest
  | .fault error => .fault (error.shift lead)

theorem scanLexeme_shift
    (lead : Lead)
    (start : Position)
    (cs : List Char) :
    scanLexeme (start.shift lead) cs = (scanLexeme start cs).shift lead := by
  unfold scanLexeme
  split
  · rfl
  · rw [Position.after_shift, quotation_shift]
    cases quotation (start.after '"') _ with
    | unclosed => rfl
    | badEscape position escaped => rfl
    | closed text position rest =>
        simp only [Quotation.shift]
        split <;> rfl
  · simp only [Position.afterAll_shift]
    split <;> rfl

theorem scan_shift
    (lead : Lead)
    (position : Position)
    (cs : List Char) :
    scan (position.shift lead) cs = (scan position cs).shift lead := by
  simp only [scan, skipTrivia_shift, scanLexeme_shift]

theorem tokensFrom_of_fault
    {error : LexError}
    (fault : scan position cs = .fault error) :
    tokensFrom position cs = .error error := by
  rw [tokensFrom]
  split <;> rename_i read <;> cases fault.symm.trans read
  rfl

/-- The tokens of a script as tokens of the script that it stands in, and its fault likewise. -/
def shiftTokens (lead : Lead) (read : Except LexError (List Token)) : Except LexError (List Token) :=
  (read.mapError (LexError.shift lead)).map (List.map (Token.shift lead))

/-- A text gives the same tokens wherever it begins, with their positions counted from there. -/
theorem tokensFrom_shift
    (lead : Lead)
    (position : Position)
    (cs : List Char) :
    tokensFrom (position.shift lead) cs = shiftTokens lead (tokensFrom position cs) := by
  induction position, cs using tokensFrom.induct with
  | case1 position cs finished =>
      have moved := scan_shift lead position cs
      rw [finished] at moved
      rw [tokensFrom_of_finished finished, tokensFrom_of_finished moved]
      rfl
  | case2 position cs error fault =>
      have moved := scan_shift lead position cs
      rw [fault] at moved
      rw [tokensFrom_of_fault fault, tokensFrom_of_fault moved]
      rfl
  | case3 start cs token position rest found _ inductionHypothesis =>
      have moved := scan_shift lead start cs
      rw [found] at moved
      rw [tokensFrom_of_token found, tokensFrom_of_token moved, inductionHypothesis]
      cases tokensFrom position rest <;> rfl

/-! ## The seam -/

/-- Separators that reach to the end of a text end with a line feed behind it, in a comment too. -/
theorem skipTrivia_lineFeed
    {inComment : Bool}
    (skipped : (skipTrivia inComment position cs).2 = []) :
    skipTrivia inComment position (cs ++ '\n' :: behind) =
      skipTrivia false (position.afterAll (cs ++ ['\n'])) behind := by
  induction cs generalizing inComment position with
  | nil => cases inComment <;> rfl
  | cons c rest inductionHypothesis =>
      cases inComment with
      | true => exact inductionHypothesis skipped
      | false =>
          rw [skipTrivia] at skipped
          rw [List.cons_append, skipTrivia]
          split_ifs at skipped ⊢ with blank comment
          · exact inductionHypothesis skipped
          · exact inductionHypothesis skipped

/-- Separators in front of something else end there, whatever is behind. -/
theorem skipTrivia_append_of_ne_nil
    {inComment : Bool}
    {found : Position × List Char}
    (skipped : skipTrivia inComment position cs = found)
    (more : found.2 ≠ []) :
    skipTrivia inComment position (cs ++ behind) = (found.1, found.2 ++ behind) := by
  induction cs generalizing inComment position with
  | nil =>
      subst skipped
      cases inComment <;> exact absurd rfl more
  | cons c rest inductionHypothesis =>
      cases inComment with
      | true => exact inductionHypothesis skipped
      | false =>
          rw [skipTrivia] at skipped
          rw [List.cons_append, skipTrivia]
          split_ifs at skipped ⊢
          · exact inductionHypothesis skipped
          · exact inductionHypothesis skipped
          · subst skipped
            rfl

theorem afterAll_of_skipTrivia
    (inComment : Bool)
    (position : Position)
    (cs : List Char) :
    ∃ skipped, cs = skipped ++ (skipTrivia inComment position cs).2 ∧
      (skipTrivia inComment position cs).1 = position.afterAll skipped := by
  induction cs generalizing inComment position with
  | nil => exact ⟨[], by cases inComment <;> rfl, by cases inComment <;> rfl⟩
  | cons c rest inductionHypothesis =>
      have further (inComment : Bool) : ∃ skipped,
          c :: rest = skipped ++ (skipTrivia inComment (position.after c) rest).2 ∧
            (skipTrivia inComment (position.after c) rest).1 = position.afterAll skipped := by
        obtain ⟨skipped, split, place⟩ := inductionHypothesis inComment (position.after c)
        exact ⟨c :: skipped, by rw [List.cons_append, ← split], place⟩
      cases inComment with
      | true => exact further _
      | false =>
          rw [skipTrivia]
          split_ifs
          · exact further false
          · exact further true
          · exact ⟨[], rfl, rfl⟩

/-- A quotation that is closed is closed whatever is behind it, and uses up the characters in front of its rest. -/
theorem quotation_append
    (behind : List Char)
    {text : List Char}
    (closed : quotation start cs = .closed text position rest) :
    quotation start (cs ++ behind) = .closed text position (rest ++ behind) ∧
      ∃ quoted, cs = quoted ++ rest ∧ position = start.afterAll quoted := by
  fun_induction quotation start cs generalizing text with
  | case1 => cases closed
  | case2 => cases closed
  | case3 start escaped further c known inductionHypothesis =>
      obtain ⟨shorter, same⟩ := Quotation.length_of_push closed
      obtain ⟨longer, quoted, split, place⟩ := inductionHypothesis same
      rw [same] at closed
      refine ⟨?_, '\\' :: escaped :: quoted, by rw [split]; rfl, place⟩
      rw [List.cons_append, List.cons_append, quotation, known]
      simp only [longer]
      cases closed
      rfl
  | case4 => cases closed
  | case5 start further =>
      cases closed
      exact ⟨quotation_quote _ _, ['"'], rfl, rfl⟩
  | case6 start c further noBackslash escapes noQuote inductionHypothesis =>
      obtain ⟨shorter, same⟩ := Quotation.length_of_push closed
      obtain ⟨longer, quoted, split, place⟩ := inductionHypothesis same
      rw [same] at closed
      refine ⟨?_, c :: quoted, by rw [split]; rfl, place⟩
      have notBackslash : c ≠ '\\' := by
        rintro rfl
        cases further with
        | nil => exact noBackslash rfl rfl
        | cons escaped others => exact escapes escaped others rfl rfl
      rw [List.cons_append, quotation_plain noQuote notBackslash, longer]
      cases closed
      rfl

/-- A token in front of a line feed is the same as at the end of a text, and uses up the characters in front of the
rest. -/
theorem scanLexeme_lineFeed
    (behind : List Char)
    (found : scanLexeme start cs = .token token position rest) :
    scanLexeme start (cs ++ '\n' :: behind) = .token token position (rest ++ '\n' :: behind) ∧
      ∃ lexeme, cs = lexeme ++ rest ∧ position = start.afterAll lexeme := by
  have stops : Text.StopsAt (!isSeparator ·) ('\n' :: behind) := Text.stopsAt_cons_iff.mpr (by decide)
  have word (cs : List Char) : (cs ++ '\n' :: behind).takeWhile (!isSeparator ·) = cs.takeWhile (!isSeparator ·) ∧
      (cs ++ '\n' :: behind).dropWhile (!isSeparator ·) = cs.dropWhile (!isSeparator ·) ++ '\n' :: behind := by
    induction cs with
    | nil => exact ⟨stops.takeWhile_eq, stops.dropWhile_eq⟩
    | cons c rest inductionHypothesis =>
        rw [List.cons_append, List.takeWhile_cons, List.takeWhile_cons, List.dropWhile_cons, List.dropWhile_cons,
          inductionHypothesis.1, inductionHypothesis.2]
        exact ⟨rfl, by split <;> rfl⟩
  unfold scanLexeme at found
  split at found
  · cases found
  · rename_i quoted
    split at found
    · cases found
    · cases found
    · rename_i text place after closed
      obtain ⟨longer, inside, split, reached⟩ := quotation_append ('\n' :: behind) closed
      split at found
      · rename_i clear
        cases found
        refine ⟨?_, '"' :: inside, by rw [split]; rfl, reached⟩
        rw [List.cons_append, scanLexeme, longer]
        simp only [(word rest).1, clear]
      · cases found
  · rename_i c further notQuote
    dsimp only at found
    split at found
    · rename_i kind classified
      cases found
      refine ⟨?_, c :: further.takeWhile (!isSeparator ·), ?_, rfl⟩
      · rw [List.cons_append, scanLexeme]
        · simp only [(word further).1, (word further).2, classified]
        · exact notQuote
      · rw [List.cons_append, List.takeWhile_append_dropWhile]
    · cases found

theorem skipTrivia_of_finished
    (finished : scan position cs = .finished) :
    (skipTrivia false position cs).2 = [] := by
  unfold scan scanLexeme at finished
  dsimp only at finished
  split at finished
  · assumption
  · split at finished
    · cases finished
    · cases finished
    · split at finished <;> cases finished
  · split at finished <;> cases finished

/-- The tokens of a text, a line feed and a further text are those of the first, if it has no fault, and then those of the
further text from the place behind the line feed. -/
theorem tokensFrom_lineFeed
    {tokens : List Token}
    (read : tokensFrom start cs = .ok tokens) :
    tokensFrom start (cs ++ '\n' :: behind) =
      (tokensFrom (start.afterAll (cs ++ ['\n'])) behind).map (tokens ++ ·) := by
  induction start, cs using tokensFrom.induct generalizing tokens with
  | case1 position cs finished =>
      rw [tokensFrom_of_finished finished] at read
      cases read
      have same : scan position (cs ++ '\n' :: behind) = scan (position.afterAll (cs ++ ['\n'])) behind := by
        rw [scan, skipTrivia_lineFeed (skipTrivia_of_finished finished), ← scan]
      have further : tokensFrom position (cs ++ '\n' :: behind) = tokensFrom (position.afterAll (cs ++ ['\n'])) behind := by
        cases next : scan (position.afterAll (cs ++ ['\n'])) behind with
        | finished => rw [tokensFrom_of_finished next, tokensFrom_of_finished (same.trans next)]
        | token token place rest => rw [tokensFrom_of_token next, tokensFrom_of_token (same.trans next)]
        | fault error => rw [tokensFrom_of_fault next, tokensFrom_of_fault (same.trans next)]
      rw [further]
      cases tokensFrom (position.afterAll (cs ++ ['\n'])) behind <;> rfl
  | case2 position cs error fault =>
      rw [tokensFrom_of_fault fault] at read
      cases read
  | case3 start cs token position rest found _ inductionHypothesis =>
      rw [tokensFrom_of_token found] at read
      obtain ⟨others, readRest, rfl⟩ := map_eq_ok_iff.mp read
      obtain ⟨gap, split, place⟩ := afterAll_of_skipTrivia false start cs
      have lexeme : scanLexeme (skipTrivia false start cs).1 (skipTrivia false start cs).2 =
          .token token position rest := found
      obtain ⟨longer, consumed, parts, reached⟩ := scanLexeme_lineFeed behind lexeme
      have more : (skipTrivia false start cs).2 ≠ [] := by
        intro none
        rw [none] at lexeme
        cases lexeme
      have next : scan start (cs ++ '\n' :: behind) = .token token position (rest ++ '\n' :: behind) := by
        rw [scan, skipTrivia_append_of_ne_nil rfl more]
        exact longer
      have same : start.afterAll (cs ++ ['\n']) = position.afterAll (rest ++ ['\n']) := by
        rw [split, parts, reached, place, ← Position.afterAll_append, ← Position.afterAll_append]
        simp only [List.append_assoc]
      rw [tokensFrom_of_token next, inductionHypothesis readRest, same]
      cases tokensFrom (position.afterAll (rest ++ ['\n'])) behind <;> rfl

/-- The tokens of a script, a line feed and a further script are those of the first, if it has no fault, and then those of
the further one, bytes and lines on. -/
theorem tokenize_lineFeed
    {front behind : String}
    {tokens : List Token}
    (read : tokenize front = .ok tokens) :
    tokenize (front ++ "\n" ++ behind) = (shiftTokens (.of front) (tokenize behind)).map (tokens ++ ·) := by
  have chars : (front ++ "\n" ++ behind).toList = front.toList ++ '\n' :: behind.toList := by
    simp only [String.toList_append, List.append_assoc]
    rfl
  rw [tokenize, chars, tokensFrom_lineFeed read, Position.start_afterAll_lineFeed, tokensFrom_shift]
  rfl

end Script
end Parley
