import Parley.Script.Token
import Parley.Text.Blank

/-!
# From characters to tokens

Tokens are separated by blanks and by comments that begin with `#` and run through the end of the line.  A word ends
where a separator begins; a quoted text ends with its quote, after which a separator has to follow.  Reading stops at
the first fault.
-/

namespace Parley
namespace Script

open Text (isBlank)

/-- Whether a character separates tokens or begins a comment that does. -/
def isSeparator (c : Char) : Bool := isBlank c || c == '#'

/-- Go past blanks and comments, from a place inside a comment or outside. -/
def skipTrivia : (inComment : Bool) → Position → List Char → Position × List Char
  | _, position, [] => (position, [])
  | true, position, c :: rest => skipTrivia (c != '\n') (position.after c) rest
  | false, position, c :: rest =>
    if isBlank c then skipTrivia false (position.after c) rest
    else if c == '#' then skipTrivia true (position.after c) rest
    else (position, c :: rest)

/-- What was found after an opening quote. -/
inductive Quotation where
  /-- The text up to the closing quote, and what follows the quote. -/
  | closed (text : List Char) (position : Position) (rest : List Char)
  /-- A backslash before a character that it cannot escape. -/
  | badEscape (position : Position) (escaped : Char)
  /-- The text ran out before the quotation did. -/
  | unclosed

/-- The quotation with one more character in front. -/
def Quotation.push (c : Char) : Quotation → Quotation
  | .closed text position rest => .closed (c :: text) position rest
  | fault => fault

/-- The character that a backslash before another one stands for. -/
def unescape? : Char → Option Char
  | '"' => some '"'
  | '\\' => some '\\'
  | 'n' => some '\n'
  | _ => none

/-- Read a quoted text from behind its opening quote. -/
def quotation : Position → List Char → Quotation
  | _, [] => .unclosed
  | _, ['\\'] => .unclosed
  | position, '\\' :: escaped :: rest =>
    match unescape? escaped with
    | some c => (quotation ((position.after '\\').after escaped) rest).push c
    | none => .badEscape position escaped
  | position, c :: rest =>
    if c = '"' then .closed [] (position.after c) rest
    else (quotation (position.after c) rest).push c

/-- The first line of a text, without the characters that end it. -/
def firstLine (cs : List Char) : List Char :=
  let line := cs.takeWhile (· != '\n')
  if line.length < cs.length && line.getLast? == some '\r' then line.dropLast else line

/-- What comes next in a text. -/
inductive Scan where
  /-- Nothing but separators. -/
  | finished
  /-- A token, and what follows it. -/
  | token (token : Token) (position : Position) (rest : List Char)
  | fault (error : LexError)

/-- Read the token that begins with the first character of a text without separators at its front. -/
def scanLexeme (start : Position) : List Char → Scan
  | [] => .finished
  | '"' :: quoted =>
    match quotation (start.after '"') quoted with
    | .unclosed => .fault (.unterminatedText (String.ofList (firstLine ('"' :: quoted))) start)
    | .badEscape position escaped => .fault (.badEscape (String.ofList ['\\', escaped]) position)
    | .closed text position rest =>
      match rest.takeWhile (!isSeparator ·) with
      | [] => .token ⟨.text, String.ofList text, start⟩ position rest
      | glued =>
        let source := '"' :: quoted.take (quoted.length - rest.length) ++ glued
        .fault (.unclassifiable (String.ofList source) start)
  | c :: rest =>
    let word := c :: rest.takeWhile (!isSeparator ·)
    match classify? (String.ofList word) with
    | some kind =>
      .token ⟨kind, String.ofList word, start⟩ (start.afterAll word) (rest.dropWhile (!isSeparator ·))
    | none => .fault (.unclassifiable (String.ofList word) start)

/-- Read the next token of a text. -/
def scan (position : Position) (cs : List Char) : Scan :=
  let (start, rest) := skipTrivia false position cs
  scanLexeme start rest

/-! ## Every token uses up a part of the text -/

theorem length_skipTrivia_le (inComment : Bool) (position : Position) (cs : List Char) :
    (skipTrivia inComment position cs).2.length ≤ cs.length := by
  induction cs generalizing inComment position with
  | nil => simp [skipTrivia]
  | cons c rest ih =>
    cases inComment with
    | true =>
      rw [skipTrivia]
      exact Nat.le_succ_of_le (ih _ _)
    | false =>
      rw [skipTrivia]
      split
      · exact Nat.le_succ_of_le (ih _ _)
      · split
        · exact Nat.le_succ_of_le (ih _ _)
        · exact Nat.le_refl _

theorem Quotation.length_of_push {c : Char} {quotation : Quotation} {text : List Char} {position : Position}
    {rest : List Char} (pushed : quotation.push c = .closed text position rest) :
    ∃ shorter, quotation = .closed shorter position rest := by
  cases quotation with
  | closed shorter _ _ =>
    simp only [Quotation.push, Quotation.closed.injEq] at pushed
    exact ⟨shorter, by simp [pushed.2]⟩
  | badEscape _ _ => simp [Quotation.push] at pushed
  | unclosed => simp [Quotation.push] at pushed

theorem length_lt_of_quotation {start position : Position} {cs text rest : List Char}
    (closed : quotation start cs = .closed text position rest) : rest.length < cs.length := by
  fun_induction quotation start cs generalizing text with
  | case1 => simp at closed
  | case2 => simp at closed
  | case3 start escaped behind c known ih =>
    obtain ⟨shorter, same⟩ := Quotation.length_of_push closed
    have := ih same
    simp only [List.length_cons]
    omega
  | case4 => simp at closed
  | case5 start behind =>
    simp only [Quotation.closed.injEq] at closed
    simp [closed.2.2]
  | case6 start c behind _ _ _ ih =>
    obtain ⟨shorter, same⟩ := Quotation.length_of_push closed
    have := ih same
    simp only [List.length_cons]
    omega

theorem length_lt_of_scanLexeme {start position : Position} {cs rest : List Char} {token : Token}
    (found : scanLexeme start cs = .token token position rest) : rest.length < cs.length := by
  unfold scanLexeme at found
  split at found
  · simp at found
  · split at found
    · simp at found
    · simp at found
    · rename_i closed
      split at found
      · simp only [Scan.token.injEq] at found
        have := length_lt_of_quotation closed
        rw [← found.2.2]
        exact Nat.lt_succ_of_lt this
      · simp at found
  · dsimp only at found
    split at found
    · simp only [Scan.token.injEq] at found
      rw [← found.2.2]
      exact Nat.lt_succ_of_le (List.dropWhile_sublist _).length_le
    · simp at found

theorem length_lt_of_scan {start position : Position} {cs rest : List Char} {token : Token}
    (found : scan start cs = .token token position rest) : rest.length < cs.length :=
  Nat.lt_of_lt_of_le (length_lt_of_scanLexeme found) (length_skipTrivia_le false start cs)

/-! ## All tokens -/

/-- The tokens of a text that begins at a position, or the first fault. -/
def tokensFrom (position : Position) (cs : List Char) : Except LexError (List Token) :=
  match found : scan position cs with
  | .finished => .ok []
  | .fault error => .error error
  | .token token position rest =>
    have := length_lt_of_scan found
    (tokensFrom position rest).map (token :: ·)
termination_by cs.length

/-- The tokens of a script, or its first fault. -/
def tokenize (script : String) : Except LexError (List Token) := tokensFrom .start script.toList

/-! ## Token by token -/

/-- A reader that hands out the tokens of a script one at a time. -/
structure Lexer where
  script : String
  /-- Where the unread part begins. -/
  position : Position
  /-- The unread part. -/
  rest : List Char
  /-- Whether a fault was handed out, after which nothing is. -/
  failed : Bool

namespace Lexer

/-- A reader at the start of a script. -/
def ofScript (script : String) : Lexer := ⟨script, .start, script.toList, false⟩

/-- The reader back at the start of its script. -/
def reset (lexer : Lexer) : Lexer := ofScript lexer.script

/-- Hand out the next token or the first fault, if there is one. -/
def next (lexer : Lexer) : Option (Except LexError Token) × Lexer :=
  if lexer.failed then (none, lexer)
  else
    match scan lexer.position lexer.rest with
    | .finished => (none, lexer)
    | .token token position rest => (some (.ok token), { lexer with position, rest })
    | .fault error => (some (.error error), { lexer with failed := true })

end Lexer
end Script
end Parley
