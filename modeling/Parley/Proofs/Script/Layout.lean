import Parley.Proofs.Script.Parsing

/-!
# Scripts in any layout

A row of statements is read as these statements however it is laid out.  Between two lexemes there are some trivia, which may
be blanks or comments, and nothing that a quoted text says is taken for a part of the script around it.
-/

namespace Parley
namespace Script

variable {lexeme : Lexeme} {lexemes : List Lexeme} {lead tail body : List Char} {tokens : List Token}

/-- Characters that write lexemes one after another, with trivia behind each of them.  Between two lexemes the trivia are not
empty, and the last comment needs no line feed. -/
inductive LaidOut : List Lexeme → List Char → Prop where
  | ending {tail : List Char} : Ending tail → LaidOut [] tail
  | lexeme {lexeme : Lexeme} {lexemes : List Lexeme} {gap rest : List Char} :
      Trivia gap → (lexemes ≠ [] → gap ≠ []) → LaidOut lexemes rest →
        LaidOut (lexeme :: lexemes) (lexeme.source ++ (gap ++ rest))

/-! ## Lexemes and what is behind them -/

/-- A text with a backslash in front of quotes and backslashes can stand between quotes, and says itself. -/
theorem quoted_escaped
    (content : List Char) :
    Quoted (content.flatMap Lexeme.escape) content := by
  induction content with
  | nil => exact .nil
  | cons c content inductionHypothesis =>
      rw [List.flatMap_cons, Lexeme.escape]
      split
      · rename_i special
        have known : (c, c) ∈ escapes := by
          simp only [Bool.or_eq_true, decide_eq_true_eq] at special
          rcases special with rfl | rfl <;> decide
        exact .escape known inductionHypothesis
      · rename_i plain
        simp only [Bool.or_eq_true, decide_eq_true_eq, not_or] at plain
        exact .plain plain.1 plain.2 inductionHypothesis

/-- The characters of a legal lexeme are those of a lexeme of the grammar, which says the same. -/
theorem Lexeme.Legal.lexemeOf
    (legal : lexeme.Legal) :
    LexemeOf lexeme.source lexeme.tokenKind lexeme.content := by
  cases lexeme with
  | verb verb => exact .word (.command verb)
  | kind kind => exact .word (.nodeType kind)
  | terminal => exact .word .name
  | name id =>
      have nonempty : id ≠ "" := (Identifier.isLegal_iff.mp legal).1.ne_empty
      exact .word ((classify?_eq_some_iff nonempty).mp (classify?_of_isLegal legal))
  | text content =>
      have quoted := LexemeOf.text (quoted_escaped content.toList)
      rwa [String.ofList_toList] at quoted

theorem Ending.apart
    (ending : Ending tail) :
    Apart tail := by
  cases ending with
  | trivia trivia =>
      by_cases nonempty : tail = []
      · exact nonempty ▸ Text.stopsAt_nil
      · exact trivia.stopsAt nonempty
  | @comment gap line trivia _ =>
      by_cases nonempty : gap = []
      · subst nonempty
        exact apart_cons_iff.mpr rfl
      · exact (trivia.stopsAt nonempty).append nonempty

/-- Where lexemes are laid out behind a gap, the gap keeps them apart from what is in front. -/
theorem LaidOut.apart
    {gap rest : List Char}
    (laidOut : LaidOut lexemes rest)
    (trivia : Trivia gap)
    (separated : lexemes ≠ [] → gap ≠ []) :
    Apart (gap ++ rest) := by
  by_cases nonempty : gap = []
  · subst nonempty
    cases laidOut with
    | ending ending => exact ending.apart
    | lexeme _ _ _ => exact absurd rfl (separated (List.cons_ne_nil _ _))
  · exact (trivia.stopsAt nonempty).append nonempty

/-- Lexemes with a gap behind each of them are laid out, whatever ends the script. -/
theorem laidOut_write
    {pieces : List Piece}
    (legible : ∀ piece ∈ pieces, Trivia piece.2 ∧ piece.2 ≠ [])
    (ending : Ending tail) :
    LaidOut (pieces.map Prod.fst) (write pieces ++ tail) := by
  induction pieces with
  | nil => exact .ending ending
  | cons piece pieces inductionHypothesis =>
      obtain ⟨⟨trivia, nonempty⟩, furtherLegible⟩ := List.forall_mem_cons.mp legible
      rw [write, List.flatMap_cons, List.append_assoc, List.append_assoc]
      exact .lexeme trivia (fun _ => nonempty) (inductionHypothesis furtherLegible)

/-! ## Reading -/

/-- Lexemes that are laid out in any way are a row of lexemes of the grammar, and their tokens say what they say. -/
theorem LaidOut.lexical
    (laidOut : LaidOut lexemes body)
    (legal : ∀ lexeme ∈ lexemes, lexeme.Legal)
    (leading : Trivia lead)
    (start : Position) :
    ∃ tokens, Lexical start (lead ++ body) tokens ∧ Spell tokens lexemes := by
  induction laidOut generalizing lead start with
  | ending ending => exact ⟨[], .ending (.append leading ending), rfl⟩
  | @lexeme lexeme lexemes gap rest trivia separated further inductionHypothesis =>
      obtain ⟨lexemeLegal, furtherLegal⟩ := List.forall_mem_cons.mp legal
      obtain ⟨tokens, lexical, spell⟩ := inductionHypothesis furtherLegal trivia (start.afterAll (lead ++ lexeme.source))
      exact ⟨_, .lexeme leading lexemeLegal.lexemeOf (further.apart trivia separated) lexical,
        spell_cons_iff.mpr ⟨_, tokens, rfl, rfl, spell⟩⟩

/-- The statements of a row are numbered one after another. -/
theorem Row.indices
    {index : Nat}
    {statements : List Statement}
    (row : Row index tokens statements) :
    statements.map Statement.index = List.range' index statements.length := by
  induction row with
  | nil => rfl
  | cons _ _ inductionHypothesis =>
      rw [List.map_cons, inductionHypothesis, List.length_cons, List.range'_succ]
      rfl

/-- Well-formed statements are read again from any layout of their words and texts: with any trivia in front, some between
two lexemes, and any at the end, where texts say what they like and have only their quotes and backslashes escaped.  The
tokens are those words and texts, and the statements are the same and numbered from one on. -/
theorem parse_laidOut
    {given : List Statement}
    (wellFormed : ∀ statement ∈ given, statement.command.WellFormed)
    (leading : Trivia lead)
    (laidOut : LaidOut (given.flatMap fun statement => statement.command.lexemes) body) :
    ∃ tokens statements,
      tokenize (String.ofList (lead ++ body)) = .ok tokens ∧
        tokens.map Token.face = (given.flatMap fun statement => statement.command.lexemes).map Lexeme.face ∧
        parse tokens = .ok statements ∧
        statements.map Statement.command = given.map Statement.command ∧
        statements.map Statement.index = List.range' 1 given.length := by
  have lexemesLegal : ∀ lexeme ∈ given.flatMap fun statement => statement.command.lexemes, lexeme.Legal := by
    intro lexeme member
    obtain ⟨statement, inGiven, written⟩ := List.mem_flatMap.mp member
    exact (wellFormed statement inGiven).legal lexeme written
  obtain ⟨tokens, lexical, spell⟩ := laidOut.lexical lexemesLegal leading .start
  have tokenized : tokenize (String.ofList (lead ++ body)) = .ok tokens := by
    rw [tokenize, String.toList_ofList]
    exact tokensFrom_of_lexical lexical
  have commandsWellFormed : ∀ command ∈ given.map Statement.command, command.WellFormed :=
    List.forall_mem_map.mpr wellFormed
  have commandsSpell : Spell tokens ((given.map Statement.command).flatMap Command.lexemes) := by
    rwa [List.flatMap_map]
  obtain ⟨statements, parsed, commands⟩ := parse_spell commandsWellFormed commandsSpell
  have count : statements.length = given.length := by
    simpa using congrArg List.length commands
  have indices := (row_of_parse (proper_of_tokenize tokenized) parsed).indices
  rw [count] at indices
  exact ⟨tokens, statements, tokenized, spell, parsed, commands, indices⟩

/-- Statements whose text looks like a script of its own, in no particular places. -/
def sayingStatements : List Statement :=
  [⟨0, .create, .dialogue, none, some (.dialogue "delete scene s # \"x\"\n\\" ["7", "bye"]), .start⟩,
    ⟨0, .update, .action, some "bye", some (.action "7" .finish (some "")), .start⟩,
    ⟨0, .delete, .scene, some "s", none, .start⟩]

/-- Their words and texts, with what is behind each of them. -/
def sayingPieces : List Piece :=
  [(.verb .create, [' ']), (.kind .dialogue, ['\t']), (.text "delete scene s # \"x\"\n\\", "# \"Hm\n".toList),
    (.name "7", ['\n']), (.name "bye", [' ']), (.verb .update, [' ']), (.kind .action, [' ']), (.name "bye", [' ']),
    (.name "7", [' ']), (.terminal, [' ']), (.text "", ['\n']), (.verb .delete, [' ']), (.kind .scene, [' ']),
    (.name "s", [' '])]

/-- Their script, which ends in a comment. -/
def sayingScript : String :=
  "\ncreate dialogue\t\"delete scene s # \\\"x\\\"\n\\\\\"# \"Hm\n7\nbye update action bye 7 end \"\"\ndelete scene s #create"

/-- The statements are read from their script, whatever its texts and comments say. -/
theorem parse_sayingScript :
    (∀ statement ∈ sayingStatements, statement.command.WellFormed) ∧
      ∃ body, LaidOut (sayingStatements.flatMap fun statement => statement.command.lexemes) body ∧
        sayingScript = String.ofList (['\n'] ++ body) ∧
        ∃ tokens statements, tokenize sayingScript = .ok tokens ∧ parse tokens = .ok statements ∧
          statements.map Statement.command = sayingStatements.map Statement.command ∧
          statements.map Statement.index = [1, 2, 3] := by
  have wellFormed : ∀ statement ∈ sayingStatements, statement.command.WellFormed := by decide +kernel
  have lineFeed : Trivia ['\n'] := .blank (by decide) .nil
  have legible : ∀ piece ∈ sayingPieces, Trivia piece.2 ∧ piece.2 ≠ [] := by
    have space : Trivia [' '] := .blank (by decide) .nil
    have tab : Trivia ['\t'] := .blank (by decide) .nil
    have remark : Trivia ('#' :: ([' ', '"', 'H', 'm'] ++ '\n' :: [])) := .comment (by decide) .nil
    simpa [sayingPieces, space, tab, lineFeed] using remark
  have ending : Ending ([] ++ '#' :: "create".toList) := .comment .nil (by decide)
  have laidOut := laidOut_write legible ending
  have script : sayingScript = String.ofList (['\n'] ++ (write sayingPieces ++ '#' :: "create".toList)) := by
    decide +kernel
  obtain ⟨tokens, statements, tokenized, _, parsed, commands, indices⟩ := parse_laidOut wellFormed lineFeed laidOut
  exact ⟨wellFormed, _, laidOut, script, tokens, statements, script ▸ tokenized, parsed, commands, indices⟩

end Script
end Parley
