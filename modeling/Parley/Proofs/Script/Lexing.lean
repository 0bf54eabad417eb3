import Parley.Proofs.Script.LeadTokens
import Parley.Proofs.Script.Lexicon

/-!
# Scripts are read by the lexical grammar

Reading a row of lexemes gives their tokens, and reading a row up to a faulty lexeme gives its fault.  Since every text is one
or the other, there is nothing else that reading can give.
-/

namespace Parley
namespace Script

open Text (StopsAt takeWhile_run dropWhile_run)

variable {start position : Position} {cs source text gap rest line : List Char} {kind : TokenKind} {content : String}
  {error : LexError}

/-! ## Quoted texts -/

theorem unescape?_eq_some_iff
    {written meant : Char} :
    unescape? written = some meant ↔ (written, meant) ∈ escapes := by
  unfold unescape?
  split <;> simp_all [escapes, eq_comm]

/-- The quotation with more characters in front. -/
def Quotation.pushAll (text : List Char) (quotation : Quotation) : Quotation := text.foldr Quotation.push quotation

theorem Quotation.pushAll_closed
    (text behind rest : List Char)
    (position : Position) :
    pushAll text (.closed behind position rest) = .closed (text ++ behind) position rest := by
  induction text with
  | nil => rfl
  | cons c text inductionHypothesis => exact congrArg (Quotation.push c) inductionHypothesis

theorem Quotation.pushAll_badEscape
    (text : List Char)
    (position : Position)
    (written : Char) :
    pushAll text (.badEscape position written) = .badEscape position written := by
  induction text with
  | nil => rfl
  | cons c text inductionHypothesis => exact congrArg (Quotation.push c) inductionHypothesis

theorem Quotation.pushAll_unclosed
    (text : List Char) :
    pushAll text .unclosed = .unclosed := by
  induction text with
  | nil => rfl
  | cons c text inductionHypothesis => exact congrArg (Quotation.push c) inductionHypothesis

/-- What is quoted is read as what it says, in front of whatever is behind. -/
theorem quotation_quoted
    (quoted : Quoted source text)
    (start : Position)
    (rest : List Char) :
    quotation start (source ++ rest) = (quotation (start.afterAll source) rest).pushAll text := by
  induction quoted generalizing start with
  | nil => rfl
  | plain noQuote noBackslash _ inductionHypothesis =>
      rw [List.cons_append, quotation_plain noQuote noBackslash, inductionHypothesis]
      rfl
  | escape known _ inductionHypothesis =>
      rw [List.cons_append, List.cons_append, quotation, unescape?_eq_some_iff.mpr known]
      exact congrArg (Quotation.push _) (inductionHypothesis _)

theorem quotation_closed
    (quoted : Quoted source text)
    (start : Position)
    (rest : List Char) :
    quotation start (source ++ '"' :: rest) = .closed text (start.afterAll (source ++ ['"'])) rest := by
  rw [quotation_quoted quoted, quotation_quote, Quotation.pushAll_closed, List.append_nil, Position.afterAll_append]
  rfl

theorem quotation_badEscape
    {written : Char}
    (quoted : Quoted source text)
    (unknown : ∀ meant, (written, meant) ∉ escapes)
    (start : Position)
    (rest : List Char) :
    quotation start (source ++ '\\' :: written :: rest) = .badEscape (start.afterAll source) written := by
  have none : unescape? written = none := by
    rw [Option.eq_none_iff_forall_ne_some]
    exact fun meant known => unknown meant (unescape?_eq_some_iff.mp known)
  rw [quotation_quoted quoted, quotation, none]
  exact Quotation.pushAll_badEscape _ _ _

theorem quotation_unclosed
    {tail : List Char}
    (quoted : Quoted source text)
    (unfinished : tail = [] ∨ tail = ['\\'])
    (start : Position) :
    quotation start (source ++ tail) = .unclosed := by
  rw [quotation_quoted quoted]
  rcases unfinished with rfl | rfl <;> exact Quotation.pushAll_unclosed _

/-! ## One lexeme -/

theorem firstLine_eq
    (first : FirstLine cs line) :
    firstLine cs = line := by
  have unbroken {line : List Char} (noBreak : '\n' ∉ line) : ∀ c ∈ line, (c != '\n') = true := fun c member =>
    bne_iff_ne.mpr fun same => noBreak (same ▸ member)
  have stops (rest : List Char) : StopsAt (· != '\n') ('\n' :: rest) := Text.stopsAt_cons_iff.mpr rfl
  cases first with
  | whole noBreak =>
      have run := takeWhile_run (unbroken noBreak) Text.stopsAt_nil
      rw [List.append_nil] at run
      simp [firstLine, run]
  | lineFeed noBreak noReturn =>
      simp [firstLine, takeWhile_run (unbroken noBreak) (stops _), noReturn]
  | @carriageReturn _ rest noBreak =>
      have noBreak : '\n' ∉ line ++ ['\r'] := by simp [noBreak]
      have run := takeWhile_run (unbroken noBreak) (stops rest)
      rw [List.append_assoc, List.singleton_append] at run
      simp [firstLine, run]

theorem scanLexeme_of_solid
    {run : List Char}
    (solid : Solid run)
    (noQuote : run.head? ≠ some '"')
    (apart : Apart rest)
    (start : Position) :
    scanLexeme start (run ++ rest) = (classify? (String.ofList run)).elim
      (.fault (.unclassifiable (String.ofList run) start))
      fun kind => .token ⟨kind, String.ofList run, start⟩ (start.afterAll run) rest := by
  cases run with
  | nil => exact absurd rfl solid.ne_nil
  | cons first further =>
      have goesOn : ∀ c ∈ further, (!isSeparator c) = true := fun c member => by
        rw [solid.not_separator c (List.mem_cons_of_mem _ member), Bool.not_false]
      rw [List.cons_append, scanLexeme]
      · simp only [takeWhile_run goesOn apart, dropWhile_run goesOn apart]
        cases classify? (String.ofList (first :: further)) <;> rfl
      · rintro rfl
        exact noQuote rfl

/-- A lexeme in front of a separator or the end is read as its token. -/
theorem scanLexeme_of_lexemeOf
    (lexeme : LexemeOf source kind content)
    (apart : Apart rest)
    (start : Position) :
    scanLexeme start (source ++ rest) = .token ⟨kind, content, start⟩ (start.afterAll source) rest := by
  cases lexeme with
  | word ofWord =>
      obtain ⟨solid, noQuote⟩ := ofWord.solid
      have nonempty : content ≠ "" := mt String.toList_eq_nil_iff.mpr solid.ne_nil
      rw [scanLexeme_of_solid solid noQuote apart, String.ofList_toList, (classify?_eq_some_iff nonempty).mpr ofWord,
        Option.elim_some]
  | @text source said quoted =>
      rw [List.cons_append, List.append_assoc, scanLexeme, List.singleton_append, quotation_closed quoted]
      simp only [apart.takeWhile_eq]
      rfl

/-- A faulty lexeme is read as its fault. -/
theorem scanLexeme_of_faultAt
    (fault : FaultAt start cs error) :
    scanLexeme start cs = .fault error := by
  cases fault with
  | @word word rest solid noQuote apart unknown =>
      have nonempty : String.ofList word ≠ "" := mt String.ofList_eq_empty_iff.mp solid.ne_nil
      have none : classify? (String.ofList word) = none := by
        rw [Option.eq_none_iff_forall_ne_some]
        exact fun kind classified => unknown kind ((classify?_eq_some_iff nonempty).mp classified)
      rw [scanLexeme_of_solid solid noQuote apart, none, Option.elim_none]
  | @glued source text further rest quoted solid apart =>
      have goesOn : ∀ c ∈ further, (!isSeparator c) = true := fun c member => by
        rw [solid.not_separator c member, Bool.not_false]
      have used : (source ++ '"' :: (further ++ rest)).take
          ((source ++ '"' :: (further ++ rest)).length - (further ++ rest).length) = source ++ ['"'] := by
        rw [List.append_cons, List.length_append, Nat.add_sub_cancel]
        exact List.take_left
      rw [scanLexeme, quotation_closed quoted]
      simp only [takeWhile_run goesOn apart]
      split
      · exact absurd rfl solid.ne_nil
      · rw [used, List.cons_append, List.append_assoc, List.singleton_append]
  | escape quoted unknown =>
      rw [scanLexeme, quotation_badEscape quoted unknown]
      rfl
  | unclosed quoted tail line =>
      rw [scanLexeme, quotation_unclosed quoted tail, firstLine_eq line]

/-! ## Separators in front -/

theorem skipTrivia_of_comment
    (noBreak : '\n' ∉ line)
    (start : Position) :
    (skipTrivia true start line).2 = [] := by
  induction line generalizing start with
  | nil => rfl
  | cons c line inductionHypothesis =>
      rw [List.mem_cons, not_or] at noBreak
      rw [skipTrivia, bne_iff_ne.mpr (Ne.symm noBreak.1)]
      exact inductionHypothesis noBreak.2 _

theorem skipTrivia_of_ending
    (ending : Ending cs)
    (start : Position) :
    (skipTrivia false start cs).2 = [] := by
  cases ending with
  | trivia trivia =>
      rw [← List.append_nil cs, skipTrivia_append trivia]
      rfl
  | comment trivia noBreak =>
      rw [skipTrivia_append trivia]
      exact skipTrivia_of_comment noBreak _

/-- Trivia in front are passed over, up to what does not separate. -/
theorem skipTrivia_of_trivia
    {first : Char}
    (trivia : Trivia gap)
    (notSeparator : isSeparator first = false)
    (start : Position)
    (rest : List Char) :
    skipTrivia false start (gap ++ first :: rest) = (start.afterAll gap, first :: rest) := by
  obtain ⟨notBlank, notHash⟩ := Bool.or_eq_false_iff.mp notSeparator
  rw [skipTrivia_append trivia, skipTrivia, notBlank, notHash]
  rfl

theorem scan_of_ending
    (ending : Ending cs)
    (start : Position) :
    scan start cs = .finished := by
  simp only [scan, skipTrivia_of_ending ending start, scanLexeme]

theorem Solid.exists_cons
    {run : List Char}
    (solid : Solid run) :
    ∃ first further, run = first :: further ∧ isSeparator first = false := by
  obtain ⟨first, further, rfl⟩ := List.exists_cons_of_ne_nil solid.ne_nil
  exact ⟨first, further, rfl, solid.not_separator first List.mem_cons_self⟩

theorem scan_of_lexemeOf
    (trivia : Trivia gap)
    (lexeme : LexemeOf source kind content)
    (apart : Apart rest)
    (start : Position) :
    scan start (gap ++ (source ++ rest)) =
      .token ⟨kind, content, start.afterAll gap⟩ (start.afterAll (gap ++ source)) rest := by
  have opens : ∃ first further, source = first :: further ∧ isSeparator first = false := by
    cases lexeme with
    | word ofWord => exact ofWord.solid.1.exists_cons
    | text quoted => exact ⟨'"', _, rfl, by decide⟩
  obtain ⟨first, further, sourceEq, notSeparator⟩ := opens
  have read := scanLexeme_of_lexemeOf lexeme apart (start.afterAll gap)
  rw [sourceEq, List.cons_append] at read
  rw [scan, sourceEq, List.cons_append, skipTrivia_of_trivia trivia notSeparator, Position.afterAll_append]
  exact read

/-- A faulty lexeme begins with a character that does not separate. -/
theorem FaultAt.exists_cons
    (fault : FaultAt start cs error) :
    ∃ first further, cs = first :: further ∧ isSeparator first = false := by
  cases fault with
  | word solid _ _ _ =>
      obtain ⟨first, further, rfl, notSeparator⟩ := solid.exists_cons
      exact ⟨first, _, rfl, notSeparator⟩
  | glued _ _ _ => exact ⟨'"', _, rfl, by decide⟩
  | escape _ _ => exact ⟨'"', _, rfl, by decide⟩
  | unclosed _ _ _ => exact ⟨'"', _, rfl, by decide⟩

theorem scan_of_faultAt
    (trivia : Trivia gap)
    (fault : FaultAt (start.afterAll gap) rest error) :
    scan start (gap ++ rest) = .fault error := by
  obtain ⟨first, further, rfl, notSeparator⟩ := fault.exists_cons
  rw [scan, skipTrivia_of_trivia trivia notSeparator]
  exact scanLexeme_of_faultAt fault

/-! ## Whole scripts -/

theorem tokensFrom_of_lexical
    {tokens : List Token}
    (lexical : Lexical start cs tokens) :
    tokensFrom start cs = .ok tokens := by
  induction lexical with
  | ending ending => exact tokensFrom_of_finished (scan_of_ending ending _)
  | lexeme trivia lexeme apart _ inductionHypothesis =>
      rw [tokensFrom_of_token (scan_of_lexemeOf trivia lexeme apart _), inductionHypothesis]
      rfl

theorem tokensFrom_of_faulty
    (faulty : Faulty start cs error) :
    tokensFrom start cs = .error error := by
  induction faulty with
  | here trivia fault => exact tokensFrom_of_fault (scan_of_faultAt trivia fault)
  | later trivia lexeme apart _ inductionHypothesis =>
      rw [tokensFrom_of_token (scan_of_lexemeOf trivia lexeme apart _), inductionHypothesis]
      rfl

/-- Whatever is read as tokens is a row of their lexemes. -/
theorem lexical_of_tokensFrom
    {tokens : List Token}
    (read : tokensFrom start cs = .ok tokens) :
    Lexical start cs tokens := by
  rcases lexical_or_faulty start cs with ⟨others, lexical⟩ | ⟨error, faulty⟩
  · cases read.symm.trans (tokensFrom_of_lexical lexical)
    exact lexical
  · cases read.symm.trans (tokensFrom_of_faulty faulty)

/-- Whatever is refused is a row of lexemes up to the faulty one. -/
theorem faulty_of_tokensFrom
    (refused : tokensFrom start cs = .error error) :
    Faulty start cs error := by
  rcases lexical_or_faulty start cs with ⟨tokens, lexical⟩ | ⟨other, faulty⟩
  · cases refused.symm.trans (tokensFrom_of_lexical lexical)
  · cases refused.symm.trans (tokensFrom_of_faulty faulty)
    exact faulty

/-- A script is read as tokens just if it is a row of lexemes between trivia, every lexeme with the end of the script or a
separator behind it, and these are its tokens, with the positions of their first characters.  It is refused with a fault just
if it is such a row up to a faulty lexeme, and this is the fault of that lexeme. -/
theorem tokenize_iff_lexical
    (script : String) :
    (∀ tokens, tokenize script = .ok tokens ↔ Lexical .start script.toList tokens) ∧
      ∀ error, tokenize script = .error error ↔ Faulty .start script.toList error :=
  ⟨fun _ => ⟨lexical_of_tokensFrom, tokensFrom_of_lexical⟩, fun _ => ⟨faulty_of_tokensFrom, tokensFrom_of_faulty⟩⟩

end Script
end Parley
