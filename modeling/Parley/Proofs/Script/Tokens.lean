import Mathlib
import Parley.Proofs.Identifier
import Parley.Proofs.Script.Writing
import Parley.Proofs.Text.Runs

/-!
# Reading written lexemes

Every lexeme that is written with a gap behind it is read as one token that says the same, so the tokens of a written row
of lexemes are these lexemes.
-/

namespace Parley
namespace Script

open Identifier (IsWord isLegal_iff isWord_of_reserved)
open Text (StopsAt stopsAt_nil stopsAt_cons_iff takeWhile_run dropWhile_run)

variable {c : Char} {lexeme : Lexeme} {gap rest : List Char} {position start : Position}

theorem isSeparator_of_isWordChar
    (ofWord : Identifier.isWordChar c = true) :
    isSeparator c = false := by
  have bounds := Identifier.toNat_of_isWordChar ofWord
  rw [isSeparator, Bool.or_eq_false_iff, beq_eq_false_iff_ne]
  constructor
  · simp only [Text.isBlank, Bool.or_eq_false_iff, Bool.and_eq_false_iff, beq_eq_false_iff_ne,
      decide_eq_false_iff_not]
    omega
  · rintro rfl
    contradiction

namespace Lexeme

/-- Whether a lexeme is a quoted text. -/
def IsText : Lexeme → Prop
  | .text _ => True
  | _ => False

theorem source_of_not_isText
    (word : ¬lexeme.IsText) :
    lexeme.source = lexeme.content.toList := by
  cases lexeme with
  | text t => exact absurd trivial word
  | verb v => rfl
  | kind k => rfl
  | terminal => rfl
  | name id => rfl

theorem isWord_content
    (legal : lexeme.Legal)
    (word : ¬lexeme.IsText) :
    IsWord lexeme.content := by
  cases lexeme with
  | text t => exact absurd trivial word
  | verb v => cases v <;> exact isWord_of_reserved (by decide)
  | kind k => cases k <;> exact isWord_of_reserved (by decide)
  | terminal => exact isWord_of_reserved (by decide)
  | name id => exact (isLegal_iff.mp legal).1

/-- A word is told apart by its spelling. -/
theorem classify?_content
    (legal : lexeme.Legal)
    (word : ¬lexeme.IsText) :
    classify? lexeme.content = some lexeme.tokenKind := by
  cases lexeme with
  | text t => exact absurd trivial word
  | verb v => cases v <;> decide
  | kind k => cases k <;> decide
  | terminal => decide
  | name id =>
      have free := (isLegal_iff.mp legal).2
      simp only [Identifier.reservedWords, List.mem_cons, List.not_mem_nil, or_false, not_or] at free
      obtain ⟨create, update, delete, scene, dialogue, action, terminal⟩ := free
      have legal : Identifier.isLegal id = true := legal
      simp only [classify?, content, tokenKind, List.contains_cons, List.contains_nil, create, update, delete, scene,
        dialogue, action, terminal, legal, beq_iff_eq, Bool.or_false, Bool.or_eq_true, or_false, if_false, if_true]
      split <;> rfl

end Lexeme

/-! ## One token -/

theorem exists_eq_cons_of_isWord
    {text : String}
    (word : IsWord text) :
    ∃ first rest, text.toList = first :: rest ∧ first ≠ '"' ∧ ∀ c ∈ first :: rest, isSeparator c = false := by
  obtain ⟨nonempty, all⟩ := word
  cases chars : text.toList with
  | nil => exact absurd (String.toList_eq_nil_iff.mp chars) nonempty
  | cons first rest =>
      rw [chars] at all
      refine ⟨first, rest, rfl, ?_, fun c member => isSeparator_of_isWordChar (all c member)⟩
      rintro rfl
      exact absurd (all '"' List.mem_cons_self) (by decide)

theorem quotation_quote
    (start : Position)
    (rest : List Char) :
    quotation start ('"' :: rest) = .closed [] (start.after '"') rest := by
  simp [quotation]

theorem quotation_plain
    (noQuote : c ≠ '"')
    (noBackslash : c ≠ '\\')
    (start : Position)
    (rest : List Char) :
    quotation start (c :: rest) = (quotation (start.after c) rest).push c := by
  rw [quotation, if_neg noQuote]
  · exact fun same => absurd same noBackslash
  · exact fun _ _ same => absurd same noBackslash

/-- Escaped characters are read as what they were before, up to the closing quote. -/
theorem quotation_escape
    (content rest : List Char)
    (start : Position) :
    ∃ position, quotation start (content.flatMap Lexeme.escape ++ '"' :: rest) = .closed content position rest := by
  induction content generalizing start with
  | nil =>
      exact ⟨_, quotation_quote start rest⟩
  | cons c content inductionHypothesis =>
      rw [List.flatMap_cons, List.append_assoc, Lexeme.escape]
      split
      · rename_i special
        obtain ⟨position, read⟩ := inductionHypothesis ((start.after '\\').after c)
        have known : unescape? c = some c := by
          simp only [Bool.or_eq_true, decide_eq_true_eq] at special
          rcases special with rfl | rfl <;> rfl
        refine ⟨position, ?_⟩
        simp only [List.cons_append, List.nil_append, quotation, known, read, Quotation.push]
      · rename_i plain
        obtain ⟨position, read⟩ := inductionHypothesis (start.after c)
        simp only [Bool.or_eq_true, decide_eq_true_eq, not_or] at plain
        refine ⟨position, ?_⟩
        rw [List.singleton_append, quotation_plain plain.1 plain.2, read, Quotation.push]

/-- A written lexeme in front of a separator is read as one token that says the same. -/
theorem scanLexeme_source
    (legal : lexeme.Legal)
    (stops : StopsAt (!isSeparator ·) rest)
    (start : Position) :
    ∃ position,
      scanLexeme start (lexeme.source ++ rest) = .token ⟨lexeme.tokenKind, lexeme.content, start⟩ position rest := by
  by_cases word : lexeme.IsText
  · cases lexeme with
    | text t =>
        obtain ⟨position, read⟩ := quotation_escape t.toList rest (start.after '"')
        refine ⟨position, ?_⟩
        simp only [Lexeme.source, List.cons_append, List.append_assoc, List.nil_append, scanLexeme, read,
          stops.takeWhile_eq, String.ofList_toList, Lexeme.tokenKind, Lexeme.content]
    | _ => exact absurd word id
  · obtain ⟨first, further, chars, plain, solid⟩ := exists_eq_cons_of_isWord (lexeme.isWord_content legal word)
    have furtherSolid : ∀ c ∈ further, (!isSeparator c) = true := fun c member => by
      rw [solid c (List.mem_cons_of_mem _ member), Bool.not_false]
    refine ⟨start.afterAll (first :: further), ?_⟩
    rw [Lexeme.source_of_not_isText word, chars, List.cons_append, scanLexeme]
    · simp only [takeWhile_run furtherSolid stops, dropWhile_run furtherSolid stops, ← chars, String.ofList_toList,
        Lexeme.classify?_content legal word]
    · exact plain

/-! ## All tokens -/

/-- Trivia are passed over. -/
theorem skipTrivia_append
    (trivia : Trivia gap)
    (position : Position)
    (rest : List Char) :
    skipTrivia false position (gap ++ rest) = skipTrivia false (position.afterAll gap) rest := by
  have comment (line behind : List Char) (start : Position) (noBreak : '\n' ∉ line) :
      skipTrivia true start (line ++ '\n' :: behind) = skipTrivia false (start.afterAll (line ++ ['\n'])) behind := by
    induction line generalizing start with
    | nil => rfl
    | cons c line inductionHypothesis =>
        rw [List.mem_cons, not_or] at noBreak
        rw [List.cons_append, skipTrivia, bne_iff_ne.mpr (Ne.symm noBreak.1), inductionHypothesis _ noBreak.2]
        rfl
  induction trivia generalizing position with
  | nil => rfl
  | blank blank _ inductionHypothesis => rw [List.cons_append, skipTrivia, if_pos blank, inductionHypothesis]; rfl
  | @comment line behind noBreak _ inductionHypothesis =>
      have notBlank : Text.isBlank '#' = false := by decide
      rw [List.cons_append, List.append_assoc, List.cons_append, skipTrivia, notBlank, comment line _ _ noBreak,
        inductionHypothesis]
      simp [Position.afterAll]

theorem Trivia.stopsAt
    (trivia : Trivia gap)
    (nonempty : gap ≠ []) :
    StopsAt (!isSeparator ·) gap := by
  cases trivia with
  | nil => exact absurd rfl nonempty
  | blank blank _ => simp [isSeparator, blank]
  | comment _ _ => simp [isSeparator]

theorem source_eq_cons
    (legal : lexeme.Legal) :
    ∃ first further, lexeme.source = first :: further ∧ isSeparator first = false := by
  by_cases word : lexeme.IsText
  · cases lexeme with
    | text t => exact ⟨'"', _, rfl, by decide⟩
    | _ => exact absurd word id
  · obtain ⟨first, further, chars, _, solid⟩ := exists_eq_cons_of_isWord (lexeme.isWord_content legal word)
    exact ⟨first, further, (Lexeme.source_of_not_isText word).trans chars, solid first List.mem_cons_self⟩

theorem skipTrivia_source
    (legal : lexeme.Legal)
    (position : Position)
    (rest : List Char) :
    skipTrivia false position (lexeme.source ++ rest) = (position, lexeme.source ++ rest) := by
  obtain ⟨first, further, source, solid⟩ := source_eq_cons legal
  obtain ⟨notBlank, notHash⟩ := Bool.or_eq_false_iff.mp solid
  rw [source, List.cons_append, skipTrivia, notBlank, notHash]
  rfl

theorem tokensFrom_of_finished
    {cs : List Char}
    (finished : scan position cs = .finished) :
    tokensFrom position cs = .ok [] := by
  rw [tokensFrom]
  split <;> rename_i read <;> cases finished.symm.trans read
  rfl

theorem tokensFrom_of_token
    {cs : List Char}
    {token : Token}
    (first : scan start cs = .token token position rest) :
    tokensFrom start cs = (tokensFrom position rest).map (token :: ·) := by
  rw [tokensFrom]
  split <;> rename_i read <;> cases first.symm.trans read
  rfl

/-- The tokens of written pieces, whatever trivia stand in front, are their lexemes. -/
theorem tokensFrom_write
    {pieces : List Piece}
    (legible : ∀ piece ∈ pieces, Piece.Legible piece)
    (trivia : Trivia gap)
    (position : Position) :
    ∃ tokens, tokensFrom position (gap ++ write pieces) = .ok tokens ∧
      tokens.map Token.face = pieces.map fun piece => piece.1.face := by
  induction pieces generalizing gap position with
  | nil =>
      refine ⟨[], tokensFrom_of_finished ?_, rfl⟩
      rw [scan, skipTrivia_append trivia]
      rfl
  | cons piece pieces inductionHypothesis =>
      obtain ⟨lexeme, behind⟩ := piece
      obtain ⟨⟨legal, behindTrivia, behindNonempty⟩, furtherLegible⟩ := List.forall_mem_cons.mp legible
      have behindStops : StopsAt (!isSeparator ·) (behind ++ write pieces) :=
        (behindTrivia.stopsAt behindNonempty).append behindNonempty
      obtain ⟨position', one⟩ := scanLexeme_source legal behindStops (position.afterAll gap)
      have first : scan position (gap ++ write ((lexeme, behind) :: pieces)) =
          .token ⟨lexeme.tokenKind, lexeme.content, position.afterAll gap⟩ position' (behind ++ write pieces) := by
        rw [scan, skipTrivia_append trivia, write, List.flatMap_cons, List.append_assoc, skipTrivia_source legal]
        exact one
      obtain ⟨tokens, further, faces⟩ := inductionHypothesis furtherLegible behindTrivia position'
      refine ⟨⟨lexeme.tokenKind, lexeme.content, position.afterAll gap⟩ :: tokens, ?_, ?_⟩
      · rw [tokensFrom_of_token first, further]
        rfl
      · rw [List.map_cons, List.map_cons, faces]
        rfl

/-- The tokens of a written script are its lexemes. -/
theorem tokenize_write
    {pieces : List Piece}
    (legible : ∀ piece ∈ pieces, Piece.Legible piece) :
    ∃ tokens, tokenize (String.ofList (write pieces)) = .ok tokens ∧
      tokens.map Token.face = pieces.map fun piece => piece.1.face := by
  rw [tokenize, String.toList_ofList]
  exact tokensFrom_write legible .nil .start

end Script
end Parley
