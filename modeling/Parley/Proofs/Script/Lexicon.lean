import Mathlib
import Parley.Proofs.Script.Tokens

/-!
# The lexical grammar of scripts

A script is a row of lexemes with trivia in front of, between and behind them.  A lexeme is a word of the language or a
quoted text, and behind it the script ends or a separator stands.  Every text is such a row, or it has a first lexeme that is
faulty.
-/

namespace Parley
namespace Script

open Identifier (IsWord isLegal_iff isWord_of_reserved)
open Text (StopsAt isBlank)

/-! ## Words and quoted texts -/

/-- The words of the language. -/
inductive WordOf : TokenKind → String → Prop where
  | command (verb : Verb) : WordOf .command verb.keyword
  | nodeType (kind : Kind) : WordOf .nodeType kind.keyword
  | name : WordOf .name Identifier.terminal
  | number {word : String} : word ≠ "" → (∀ c ∈ word.toList, c.isDigit = true) → WordOf .number word
  | identifier {word : String} :
      Identifier.isLegal word = true → (∃ c ∈ word.toList, c.isDigit = false) → WordOf .identifier word

/-- The characters that may stand behind a backslash, and what they stand for there. -/
def escapes : List (Char × Char) := [('"', '"'), ('\\', '\\'), ('n', '\n')]

/-- What stands between quotes, and the text that it says. -/
inductive Quoted : List Char → List Char → Prop where
  | nil : Quoted [] []
  | plain {c : Char} {source text : List Char} :
      c ≠ '"' → c ≠ '\\' → Quoted source text → Quoted (c :: source) (c :: text)
  | escape {written meant : Char} {source text : List Char} :
      (written, meant) ∈ escapes → Quoted source text → Quoted ('\\' :: written :: source) (meant :: text)

/-- The characters of a lexeme, what it is, and what it says. -/
inductive LexemeOf : List Char → TokenKind → String → Prop where
  | word {kind : TokenKind} {word : String} : WordOf kind word → LexemeOf word.toList kind word
  | text {source text : List Char} :
      Quoted source text → LexemeOf ('"' :: (source ++ ['"'])) .text (String.ofList text)

/-! ## Trivia -/

/-- Trivia at the end of a script, where a comment needs no line feed. -/
inductive Ending : List Char → Prop where
  | trivia {gap : List Char} : Trivia gap → Ending gap
  | comment {gap line : List Char} : Trivia gap → '\n' ∉ line → Ending (gap ++ '#' :: line)

/-- What may stand behind a lexeme: the end of the script, or a separator with which trivia begin. -/
abbrev Apart (rest : List Char) : Prop := StopsAt (!isSeparator ·) rest

/-- Characters in a row, none of which separates. -/
structure Solid (run : List Char) : Prop where
  ne_nil : run ≠ []
  not_separator : ∀ c ∈ run, isSeparator c = false

/-! ## Scripts -/

/-- A text that begins at a position is a row of lexemes between trivia, and these are its tokens. -/
inductive Lexical : Position → List Char → List Token → Prop where
  | ending {start : Position} {gap : List Char} : Ending gap → Lexical start gap []
  | lexeme {start : Position} {gap source rest : List Char} {kind : TokenKind} {text : String} {tokens : List Token} :
      Trivia gap → LexemeOf source kind text → Apart rest → Lexical (start.afterAll (gap ++ source)) rest tokens →
        Lexical start (gap ++ (source ++ rest)) (⟨kind, text, start.afterAll gap⟩ :: tokens)

/-- The first line of a text, without a line feed or a carriage return and a line feed at its end. -/
inductive FirstLine : List Char → List Char → Prop where
  | whole {line : List Char} : '\n' ∉ line → FirstLine line line
  | lineFeed {line rest : List Char} :
      '\n' ∉ line → line.getLast? ≠ some '\r' → FirstLine (line ++ '\n' :: rest) line
  | carriageReturn {line rest : List Char} : '\n' ∉ line → FirstLine (line ++ '\r' :: '\n' :: rest) line

/-- A text that begins at a position begins with a faulty lexeme. -/
inductive FaultAt (start : Position) : List Char → LexError → Prop where
  /-- A word that is none of the language. -/
  | word {word rest : List Char} :
      Solid word → word.head? ≠ some '"' → Apart rest → (∀ kind, ¬WordOf kind (String.ofList word)) →
        FaultAt start (word ++ rest) (.unclassifiable (String.ofList word) start)
  /-- A quoted text that something follows without a separator. -/
  | glued {source text further rest : List Char} :
      Quoted source text → Solid further → Apart rest →
        FaultAt start ('"' :: (source ++ '"' :: (further ++ rest)))
          (.unclassifiable (String.ofList ('"' :: (source ++ '"' :: further))) start)
  /-- A backslash before a character that may not stand there. -/
  | escape {source text rest : List Char} {written : Char} :
      Quoted source text → (∀ meant, (written, meant) ∉ escapes) →
        FaultAt start ('"' :: (source ++ '\\' :: written :: rest))
          (.badEscape (String.ofList ['\\', written]) (start.afterAll ('"' :: source)))
  /-- A quoted text that is not closed. -/
  | unclosed {source text tail line : List Char} :
      Quoted source text → tail = [] ∨ tail = ['\\'] → FirstLine ('"' :: (source ++ tail)) line →
        FaultAt start ('"' :: (source ++ tail)) (.unterminatedText (String.ofList line) start)

/-- A text that begins at a position is a row of lexemes up to a faulty one, and this is its fault. -/
inductive Faulty : Position → List Char → LexError → Prop where
  | here {start : Position} {gap rest : List Char} {error : LexError} :
      Trivia gap → FaultAt (start.afterAll gap) rest error → Faulty start (gap ++ rest) error
  | later {start : Position} {gap source rest : List Char} {kind : TokenKind} {text : String} {error : LexError} :
      Trivia gap → LexemeOf source kind text → Apart rest → Faulty (start.afterAll (gap ++ source)) rest error →
        Faulty start (gap ++ (source ++ rest)) error

variable {start : Position} {c first : Char} {cs rest further line gap : List Char} {word : String} {kind : TokenKind}

theorem apart_cons_iff :
    Apart (c :: rest) ↔ isSeparator c = true :=
  Text.stopsAt_cons_iff.trans (by rw [Bool.not_eq_false'])

/-! ## Words are told apart by their spelling -/

theorem classify?_of_isLegal
    (legal : Identifier.isLegal word = true) :
    classify? word = some (if word.toList.all Char.isDigit then .number else .identifier) := by
  have asLexeme : (Lexeme.name word).Legal := legal
  exact Lexeme.classify?_content asLexeme id

/-- A word is classified as what it is among the words of the language. -/
theorem classify?_eq_some_iff
    (nonempty : word ≠ "") :
    classify? word = some kind ↔ WordOf kind word := by
  constructor
  · intro classified
    unfold classify? at classified
    split at classified
    · rename_i verb
      cases classified
      simp only [List.contains_cons, List.contains_nil, Bool.or_false, Bool.or_eq_true, beq_iff_eq] at verb
      rcases verb with rfl | rfl | rfl
      · exact .command .create
      · exact .command .update
      · exact .command .delete
    split at classified
    · rename_i kind
      cases classified
      simp only [List.contains_cons, List.contains_nil, Bool.or_false, Bool.or_eq_true, beq_iff_eq] at kind
      rcases kind with rfl | rfl | rfl
      · exact .nodeType .scene
      · exact .nodeType .dialogue
      · exact .nodeType .action
    split at classified
    · rename_i terminal
      cases classified
      exact beq_iff_eq.mp terminal ▸ .name
    split at classified
    · rename_i digits
      cases classified
      exact .number nonempty (List.all_eq_true.mp digits)
    split at classified
    · rename_i other legal
      cases classified
      refine .identifier legal ?_
      simpa using other
    · cases classified
  · intro ofWord
    cases ofWord with
    | command verb => cases verb <;> decide
    | nodeType kind => cases kind <;> decide
    | name => decide
    | number nonempty digits =>
        rw [classify?_of_isLegal (Identifier.isLegal_of_digits nonempty digits), if_pos (List.all_eq_true.mpr digits)]
    | identifier legal other =>
        rw [classify?_of_isLegal legal, if_neg]
        simpa using other

/-- A word of the language is solid and has no quote in front. -/
theorem WordOf.solid
    (ofWord : WordOf kind word) :
    Solid word.toList ∧ word.toList.head? ≠ some '"' := by
  have isWord : IsWord word := by
    cases ofWord with
    | command verb => cases verb <;> exact isWord_of_reserved (by decide)
    | nodeType kind => cases kind <;> exact isWord_of_reserved (by decide)
    | name => exact isWord_of_reserved (by decide)
    | number nonempty digits => exact (isLegal_iff.mp (Identifier.isLegal_of_digits nonempty digits)).1
    | identifier legal _ => exact (isLegal_iff.mp legal).1
  obtain ⟨first, rest, chars, noQuote, solid⟩ := exists_eq_cons_of_isWord isWord
  rw [chars]
  exact ⟨⟨List.cons_ne_nil _ _, solid⟩, fun same => noQuote (Option.some.inj same)⟩

/-! ## Every text has a reading -/

theorem Trivia.append
    (front : Trivia gap)
    (behind : Trivia rest) :
    Trivia (gap ++ rest) := by
  induction front with
  | nil => exact behind
  | blank blank _ inductionHypothesis => exact .blank blank inductionHypothesis
  | comment noBreak _ inductionHypothesis =>
      rw [List.cons_append, List.append_assoc, List.cons_append]
      exact .comment noBreak inductionHypothesis

theorem Ending.append
    (trivia : Trivia gap)
    (ending : Ending rest) :
    Ending (gap ++ rest) := by
  cases ending with
  | trivia further => exact .trivia (trivia.append further)
  | comment further noBreak =>
      rw [← List.append_assoc]
      exact .comment (trivia.append further) noBreak

/-- A text is trivia to its end, or there is a character behind trivia that is no part of them. -/
theorem ending_or_trivia
    (cs : List Char) :
    Ending cs ∨
      ∃ gap first rest, cs = gap ++ first :: rest ∧ Trivia gap ∧ isSeparator first = false := by
  -- What is behind trivia in front goes on in the same way.
  have extend {front behind : List Char} (trivia : Trivia front)
      (further : Ending behind ∨
        ∃ gap first rest, behind = gap ++ first :: rest ∧ Trivia gap ∧ isSeparator first = false) :
      Ending (front ++ behind) ∨
        ∃ gap first rest, front ++ behind = gap ++ first :: rest ∧ Trivia gap ∧ isSeparator first = false := by
    rcases further with ending | ⟨gap, first, rest, rfl, gapTrivia, solid⟩
    · exact .inl (.append trivia ending)
    · exact .inr ⟨front ++ gap, first, rest, (List.append_assoc ..).symm, trivia.append gapTrivia, solid⟩
  match cs with
  | [] => exact .inl (.trivia .nil)
  | c :: rest =>
      by_cases blank : isBlank c = true
      · exact extend (.blank blank .nil) (ending_or_trivia rest)
      · by_cases hash : c = '#'
        · subst hash
          by_cases lineFeed : '\n' ∈ rest
          · obtain ⟨line, behind, split, noBreak⟩ := List.eq_append_cons_of_mem lineFeed
            have shorter : behind.length < rest.length := by
              rw [split, List.length_append, List.length_cons]
              omega
            have further := extend (.comment noBreak .nil) (ending_or_trivia behind)
            rw [split]
            simpa using further
          · exact .inl (.comment .nil lineFeed)
        · exact .inr ⟨[], c, rest, rfl, .nil, by simp [isSeparator, blank, hash]⟩
termination_by cs.length
decreasing_by
  · exact Nat.lt_succ_self _
  · exact Nat.lt_succ_of_lt shorter

theorem Quoted.append
    {source text behind meant : List Char}
    (front : Quoted source text)
    (further : Quoted behind meant) :
    Quoted (source ++ behind) (text ++ meant) := by
  induction front with
  | nil => exact further
  | plain noQuote noBackslash _ inductionHypothesis => exact .plain noQuote noBackslash inductionHypothesis
  | escape known _ inductionHypothesis => exact .escape known inductionHypothesis

/-- A text is not quoted to its end only because of a quote, or of a backslash that escapes nothing. -/
def EndsQuotation (tail : List Char) : Prop :=
  tail = [] ∨ tail = ['\\'] ∨ (∃ rest, tail = '"' :: rest) ∨
    ∃ written rest, tail = '\\' :: written :: rest ∧ ∀ meant, (written, meant) ∉ escapes

/-- Every text is quoted up to where a quotation ends. -/
theorem exists_quoted
    (cs : List Char) :
    ∃ source text tail, cs = source ++ tail ∧ Quoted source text ∧ EndsQuotation tail := by
  have extend {front meant behind : List Char} (quoted : Quoted front meant)
      (further : ∃ source text tail, behind = source ++ tail ∧ Quoted source text ∧ EndsQuotation tail) :
      ∃ source text tail, front ++ behind = source ++ tail ∧ Quoted source text ∧ EndsQuotation tail := by
    obtain ⟨source, text, tail, rfl, furtherQuoted, ends⟩ := further
    exact ⟨front ++ source, meant ++ text, tail, (List.append_assoc ..).symm, quoted.append furtherQuoted, ends⟩
  match cs with
  | [] => exact ⟨[], [], [], rfl, .nil, .inl rfl⟩
  | c :: rest =>
      by_cases quote : c = '"'
      · exact ⟨[], [], c :: rest, rfl, .nil, .inr (.inr (.inl ⟨rest, quote ▸ rfl⟩))⟩
      · by_cases backslash : c = '\\'
        · subst backslash
          match rest with
          | [] => exact ⟨[], [], ['\\'], rfl, .nil, .inr (.inl rfl)⟩
          | written :: behind =>
              by_cases known : ∃ meant, (written, meant) ∈ escapes
              · obtain ⟨meant, member⟩ := known
                exact extend (.escape member .nil) (exists_quoted behind)
              · exact ⟨[], [], _, rfl, .nil, .inr (.inr (.inr ⟨written, behind, rfl, not_exists.mp known⟩))⟩
        · exact extend (.plain quote backslash .nil) (exists_quoted rest)
termination_by cs.length

/-- What begins with a character that does not separate begins with a row of such characters in front of a separator or the
end. -/
theorem exists_solid
    (notSeparator : isSeparator first = false)
    (rest : List Char) :
    ∃ run behind, first :: rest = run ++ behind ∧ Solid run ∧ run.head? = some first ∧ Apart behind := by
  obtain ⟨run, behind, split, all, apart⟩ := Text.exists_run (!isSeparator ·) rest
  refine ⟨first :: run, behind, by rw [split, List.cons_append], ⟨List.cons_ne_nil _ _, ?_⟩, List.head?_cons, apart⟩
  refine List.forall_mem_cons.mpr ⟨notSeparator, fun c member => ?_⟩
  simpa using all c member

theorem exists_firstLine
    (cs : List Char) :
    ∃ line, FirstLine cs line := by
  by_cases lineFeed : '\n' ∈ cs
  · obtain ⟨line, rest, rfl, noBreak⟩ := List.eq_append_cons_of_mem lineFeed
    by_cases ends : line.getLast? = some '\r'
    · obtain ⟨shorter, rfl⟩ := List.getLast?_eq_some_iff.mp ends
      refine ⟨shorter, ?_⟩
      rw [List.append_assoc]
      exact .carriageReturn fun member => noBreak (List.mem_append_left _ member)
    · exact ⟨line, .lineFeed noBreak ends⟩
  · exact ⟨cs, .whole lineFeed⟩

/-- What begins with a character that does not separate begins with a lexeme, or with a faulty one. -/
theorem lexeme_or_fault
    (notSeparator : isSeparator first = false)
    (rest : List Char)
    (start : Position) :
    (∃ source kind text behind, first :: rest = source ++ behind ∧ LexemeOf source kind text ∧ Apart behind) ∨
      ∃ error, FaultAt start (first :: rest) error := by
  by_cases quote : first = '"'
  · subst quote
    obtain ⟨source, text, tail, rfl, quoted, atEnd | loneBackslash | ⟨behind, rfl⟩ | ⟨written, behind, rfl, unknown⟩⟩ :=
      exists_quoted rest
    · obtain ⟨line, firstLine⟩ := exists_firstLine ('"' :: (source ++ tail))
      exact .inr ⟨_, .unclosed quoted (.inl atEnd) firstLine⟩
    · obtain ⟨line, firstLine⟩ := exists_firstLine ('"' :: (source ++ tail))
      exact .inr ⟨_, .unclosed quoted (.inr loneBackslash) firstLine⟩
    · by_cases apart : Apart behind
      · exact .inl ⟨_, _, _, behind, by simp, .text quoted, apart⟩
      · cases behind with
        | nil => exact absurd Text.stopsAt_nil apart
        | cons next further =>
            rw [apart_cons_iff, Bool.not_eq_true] at apart
            obtain ⟨run, behind, split, solid, _, runApart⟩ := exists_solid apart further
            rw [split]
            exact .inr ⟨_, .glued quoted solid runApart⟩
    · exact .inr ⟨_, .escape quoted unknown⟩
  · obtain ⟨run, behind, split, solid, head, apart⟩ := exists_solid notSeparator rest
    rw [split]
    by_cases known : ∃ kind, WordOf kind (String.ofList run)
    · obtain ⟨kind, ofWord⟩ := known
      have lexeme := LexemeOf.word ofWord
      rw [String.toList_ofList] at lexeme
      exact .inl ⟨run, kind, _, behind, rfl, lexeme, apart⟩
    · refine .inr ⟨_, .word solid ?_ apart (not_exists.mp known)⟩
      rw [head]
      exact fun same => quote (Option.some.inj same)

theorem LexemeOf.ne_nil
    {source : List Char}
    {text : String}
    (lexeme : LexemeOf source kind text) :
    source ≠ [] := by
  cases lexeme with
  | word ofWord => exact ofWord.solid.1.ne_nil
  | text quoted => exact List.cons_ne_nil _ _

/-- Every text is a row of lexemes, or a row of lexemes up to a faulty one. -/
theorem lexical_or_faulty
    (start : Position)
    (cs : List Char) :
    (∃ tokens, Lexical start cs tokens) ∨ ∃ error, Faulty start cs error := by
  rcases ending_or_trivia cs with ending | ⟨gap, first, rest, split, trivia, notSeparator⟩
  · exact .inl ⟨[], .ending ending⟩
  · rcases lexeme_or_fault notSeparator rest (start.afterAll gap) with
      ⟨source, kind, text, behind, parts, lexeme, apart⟩ | ⟨error, fault⟩
    · have shorter : behind.length < cs.length := by
        have used := List.length_pos_iff.mpr lexeme.ne_nil
        rw [split, parts, List.length_append, List.length_append]
        omega
      rw [split, parts]
      rcases lexical_or_faulty (start.afterAll (gap ++ source)) behind with ⟨tokens, lexical⟩ | ⟨error, faulty⟩
      · exact .inl ⟨_, .lexeme trivia lexeme apart lexical⟩
      · exact .inr ⟨error, .later trivia lexeme apart faulty⟩
    · rw [split]
      exact .inr ⟨error, .here trivia fault⟩
termination_by cs.length

end Script
end Parley
