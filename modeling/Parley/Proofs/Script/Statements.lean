import Parley.Proofs.Integrity.Naming
import Parley.Proofs.Script.Tokens
import Parley.Proofs.Stages
import Parley.Script.Parser

/-!
# Reading written statements

Tokens that say what written statements say are read as these statements, numbered from one on.  Where the tokens stand
makes no difference.
-/

namespace Parley

namespace Script

open Text (StopsAt stopsAt_nil stopsAt_cons_iff takeWhile_run dropWhile_run)

variable {token : Token} {tokens : List Token} {lexeme : Lexeme} {lexemes front behind : List Lexeme}
  {required : Bool} {id : Option String} {command : Command}

/-! ## Tokens that say what lexemes say -/

/-- Tokens say what lexemes say, one by one. -/
def Spell (tokens : List Token) (lexemes : List Lexeme) : Prop := tokens.map Token.face = lexemes.map Lexeme.face

theorem spell_nil_iff :
    Spell tokens [] ↔ tokens = [] :=
  List.map_eq_nil_iff

theorem spell_cons_iff :
    Spell tokens (lexeme :: lexemes) ↔
      ∃ token further, tokens = token :: further ∧ token.face = lexeme.face ∧ Spell further lexemes := by
  rw [Spell, List.map_cons, List.map_eq_cons_iff]
  rfl

theorem spell_append_iff :
    Spell tokens (front ++ behind) ↔
      ∃ first further, tokens = first ++ further ∧ Spell first front ∧ Spell further behind := by
  rw [Spell, List.map_append, List.map_eq_append_iff]
  rfl

theorem face_eq_iff :
    token.face = lexeme.face ↔ token.kind = lexeme.tokenKind ∧ token.text = lexeme.content :=
  Prod.mk.injEq _ _ _ _ |>.to_iff

theorem isIdentifierLike_of_name
    {name : String}
    (speaks : token.face = (Lexeme.name name).face) :
    token.isIdentifierLike = true := by
  rw [Token.isIdentifierLike, (face_eq_iff.mp speaks).1, Lexeme.tokenKind]
  split <;> rfl

theorem not_isIdentifierLike_of_text
    {content : String}
    (speaks : token.face = (Lexeme.text content).face) :
    token.isIdentifierLike = false := by
  rw [Token.isIdentifierLike, (face_eq_iff.mp speaks).1]
  rfl

theorem not_isReference_of_text
    {content : String}
    (speaks : token.face = (Lexeme.text content).face) :
    token.isReference = false := by
  rw [Token.isReference, not_isIdentifierLike_of_text speaks, (face_eq_iff.mp speaks).1]
  rfl

/-- Tokens that say names can all stand for identifiers, and have the names for texts. -/
theorem Spell.names
    {names : List String}
    (spell : Spell tokens (names.map .name)) :
    (∀ token ∈ tokens, token.isIdentifierLike = true) ∧ tokens.map Token.text = names := by
  induction names generalizing tokens with
  | nil =>
      rw [spell_nil_iff.mp spell]
      exact ⟨nofun, rfl⟩
  | cons name names inductionHypothesis =>
      obtain ⟨token, further, rfl, speaks, rest⟩ := spell_cons_iff.mp spell
      obtain ⟨all, texts⟩ := inductionHypothesis rest
      refine ⟨List.forall_mem_cons.mpr ⟨isIdentifierLike_of_name speaks, all⟩, ?_⟩
      rw [List.map_cons, texts, (face_eq_iff.mp speaks).2]
      rfl

/-! ## Fields -/

theorem sceneFields_spell
    {start : String}
    (spell : Spell tokens (id.toList.map .name ++ [.name start]))
    (given : required = true → id ≠ none) :
    sceneFields required tokens = .ok (id, .scene start, []) := by
  have names : Spell tokens ((id.toList ++ [start]).map .name) := by simpa using spell
  obtain ⟨all, texts⟩ := names.names
  have run : tokens.takeWhile Token.isIdentifierLike = tokens := by simpa using takeWhile_run all stopsAt_nil
  have none : tokens.dropWhile Token.isIdentifierLike = [] := by simpa using dropWhile_run all stopsAt_nil
  rw [sceneFields, run, none]
  cases id with
  | none =>
      obtain ⟨token, rfl, rfl⟩ := List.map_eq_singleton_iff.mp texts
      cases required with
      | true => exact absurd rfl (given rfl)
      | false => rfl
  | some id =>
      obtain ⟨first, further, rfl, rfl, rest⟩ := List.map_eq_cons_iff.mp texts
      obtain ⟨second, rfl, rfl⟩ := List.map_eq_singleton_iff.mp rest
      rfl

theorem dialogueLine_spell
    {text : String}
    {actions : List String}
    (spell : Spell tokens (.text text :: actions.map .name)) :
    dialogueLine id tokens = .ok (id, .dialogue text actions, []) := by
  obtain ⟨token, further, rfl, speaks, rest⟩ := spell_cons_iff.mp spell
  obtain ⟨all, texts⟩ := rest.names
  have run : further.takeWhile Token.isIdentifierLike = further := by simpa using takeWhile_run all stopsAt_nil
  have none : further.dropWhile Token.isIdentifierLike = [] := by simpa using dropWhile_run all stopsAt_nil
  obtain ⟨kind, content⟩ := face_eq_iff.mp speaks
  simp only [dialogueLine, kind, content, run, none, texts]
  rfl

theorem dialogueFields_spell
    {text : String}
    {actions : List String}
    (spell : Spell tokens (id.toList.map .name ++ .text text :: actions.map .name))
    (given : required = true → id ≠ none) :
    dialogueFields required tokens = .ok (id, .dialogue text actions, []) := by
  obtain ⟨ids, line, rfl, idSpell, lineSpell⟩ := spell_append_iff.mp spell
  obtain ⟨all, texts⟩ := idSpell.names
  have stops : StopsAt Token.isIdentifierLike line := by
    obtain ⟨token, further, rfl, speaks, _⟩ := spell_cons_iff.mp lineSpell
    exact stopsAt_cons_iff.mpr (not_isIdentifierLike_of_text speaks)
  rw [dialogueFields, takeWhile_run all stops, dropWhile_run all stops]
  cases id with
  | none =>
      rw [List.map_eq_nil_iff.mp texts]
      cases required with
      | true => exact absurd rfl (given rfl)
      | false => exact dialogueLine_spell lineSpell
  | some id =>
      obtain ⟨token, rfl, rfl⟩ := List.map_eq_singleton_iff.mp texts
      exact dialogueLine_spell lineSpell

theorem nextLexeme_spell
    {next : Next}
    (speaks : token.face = (nextLexeme next).face) :
    token.isReference = true ∧ token.text = next.text := by
  cases next with
  | finish =>
      obtain ⟨kind, content⟩ := face_eq_iff.mp speaks
      exact ⟨by rw [Token.isReference, kind]; simp [nextLexeme, Lexeme.tokenKind], content⟩
  | dialogue id =>
      exact ⟨by rw [Token.isReference, isIdentifierLike_of_name speaks]; rfl, (face_eq_iff.mp speaks).2⟩

theorem actionReply_spell
    {ownerToken nextToken : Token}
    {idToken : Option Token}
    {owner : String}
    {next : Next}
    {reply : Option String}
    (spell : Spell tokens (reply.toList.map .text))
    (idSpeaks : ∀ token ∈ idToken, token.isIdentifierLike = true)
    (ownerSpeaks : ownerToken.face = (Lexeme.name owner).face)
    (nextSpeaks : nextToken.face = (nextLexeme next).face)
    (legal : (nextLexeme next).Legal) :
    actionReply idToken ownerToken nextToken tokens = .ok (idToken.map Token.text, .action owner next reply, []) := by
  have notTerminal {token : Token} (like : token.isIdentifierLike = true) : (token.kind == .name) = false := by
    rw [Token.isIdentifierLike, Bool.or_eq_true, beq_iff_eq, beq_iff_eq] at like
    rcases like with like | like <;> rw [like] <;> rfl
  have idNotTerminal : idToken.any (·.kind == .name) = false := by
    cases idToken with
    | none => rfl
    | some token => exact notTerminal (idSpeaks token rfl)
  have parsed : Next.parse? nextToken.text = some next := by
    refine Next.parse?_eq_some_iff.mpr ⟨(nextLexeme_spell nextSpeaks).2.symm, ?_⟩
    rintro id rfl
    exact legal
  rw [actionReply, notTerminal (isIdentifierLike_of_name ownerSpeaks), idNotTerminal, parsed,
    (face_eq_iff.mp ownerSpeaks).2]
  cases reply with
  | none =>
      rw [spell_nil_iff.mp spell]
      rfl
  | some text =>
      obtain ⟨token, further, rfl, speaks, rest⟩ := spell_cons_iff.mp spell
      obtain ⟨kind, content⟩ := face_eq_iff.mp speaks
      rw [spell_nil_iff.mp rest]
      simp only [kind, content]
      rfl

theorem actionFields_spell
    {owner : String}
    {next : Next}
    {reply : Option String}
    (spell : Spell tokens (id.toList.map .name ++ .name owner :: nextLexeme next :: reply.toList.map .text))
    (given : required = true → id ≠ none)
    (legal : (nextLexeme next).Legal) :
    actionFields required tokens = .ok (id, .action owner next reply, []) := by
  obtain ⟨ids, further, rfl, idSpell, furtherSpell⟩ := spell_append_iff.mp spell
  obtain ⟨ownerToken, behind, rfl, ownerSpeaks, behindSpell⟩ := spell_cons_iff.mp furtherSpell
  obtain ⟨nextToken, behind, rfl, nextSpeaks, replySpell⟩ := spell_cons_iff.mp behindSpell
  obtain ⟨all, texts⟩ := idSpell.names
  have references : ∀ token ∈ ids ++ [ownerToken, nextToken], token.isReference = true := by
    intro token member
    rw [List.mem_append, List.mem_cons, List.mem_singleton] at member
    rcases member with inIds | rfl | rfl
    · rw [Token.isReference, all token inIds, Bool.true_or]
    · rw [Token.isReference, isIdentifierLike_of_name ownerSpeaks, Bool.true_or]
    · exact (nextLexeme_spell nextSpeaks).1
  have stops : StopsAt Token.isReference behind := by
    cases reply with
    | none => exact spell_nil_iff.mp replySpell ▸ stopsAt_nil
    | some text =>
        obtain ⟨token, further, rfl, speaks, _⟩ := spell_cons_iff.mp replySpell
        exact stopsAt_cons_iff.mpr (not_isReference_of_text speaks)
  rw [show ids ++ ownerToken :: nextToken :: behind = ids ++ [ownerToken, nextToken] ++ behind by simp, actionFields,
    takeWhile_run references stops, dropWhile_run references stops]
  cases id with
  | none =>
      rw [List.map_eq_nil_iff.mp texts]
      cases required with
      | true => exact absurd rfl (given rfl)
      | false => exact actionReply_spell replySpell nofun ownerSpeaks nextSpeaks legal
  | some id =>
      obtain ⟨token, rfl, rfl⟩ := List.map_eq_singleton_iff.mp texts
      have idSpeaks : ∀ given ∈ some token, given.isIdentifierLike = true := by simpa using all
      exact actionReply_spell replySpell idSpeaks ownerSpeaks nextSpeaks legal

theorem fieldsOfKind_spell
    {fields : Fields}
    (required : Bool)
    (spell : Spell tokens (id.toList.map .name ++ fields.lexemes))
    (given : required = true → id ≠ none)
    (legal : ∀ lexeme ∈ fields.lexemes, lexeme.Legal) :
    fieldsOfKind fields.kind required tokens = .ok (id, fields, []) := by
  cases fields with
  | scene start => exact sceneFields_spell spell given
  | dialogue text actions => exact dialogueFields_spell spell given
  | action owner next reply =>
      exact actionFields_spell spell given (legal _ (List.mem_cons_of_mem _ List.mem_cons_self))

/-! ## Statements -/

theorem operands_spell
    (wellFormed : command.WellFormed)
    (spell : Spell tokens command.operands) :
    operands command.verb command.kind tokens = .ok (command.id, command.fields, []) := by
  obtain ⟨verb, kind, id, fields⟩ := command
  obtain ⟨named, bare_iff, kind_eq, legal⟩ := wellFormed
  cases fields with
  | none =>
      obtain rfl : verb = .delete := bare_iff.mp rfl
      cases id with
      | none => exact absurd rfl (named nofun)
      | some id =>
          obtain ⟨token, further, rfl, speaks, rest⟩ := spell_cons_iff.mp spell
          rw [spell_nil_iff.mp rest]
          simp only [operands, isIdentifierLike_of_name speaks, (face_eq_iff.mp speaks).2]
          rfl
  | some fields =>
      obtain rfl : fields.kind = kind := kind_eq fields rfl
      have fieldsSpell : Spell tokens (id.toList.map .name ++ fields.lexemes) := by
        simpa [Command.operands] using spell
      have fieldsLegal : ∀ lexeme ∈ fields.lexemes, lexeme.Legal := fun lexeme member =>
        legal lexeme (by simp [Command.lexemes, Command.operands, member])
      cases verb with
      | create =>
          have reading := fieldsOfKind_spell false fieldsSpell nofun fieldsLegal
          simp only [operands, reading]
          rfl
      | update =>
          have reading := fieldsOfKind_spell true fieldsSpell (fun _ => named Verb.noConfusion) fieldsLegal
          simp only [operands, reading]
          rfl
      | delete => exact absurd (bare_iff.mpr rfl) nofun

theorem Verb.ofKeyword?_keyword
    (verb : Verb) :
    ofKeyword? verb.keyword = some verb := by
  cases verb <;> rfl

theorem kind?_of_kind
    {kind : Kind}
    (speaks : token.face = (Lexeme.kind kind).face) :
    token.kind? = some kind := by
  obtain ⟨nodeType, keyword⟩ := face_eq_iff.mp speaks
  rw [Token.kind?, nodeType, keyword]
  cases kind <;> rfl

/-- The tokens of a statement are read as it. -/
theorem statementOf_spell
    {head : Token}
    {body : List Token}
    (wellFormed : command.WellFormed)
    (spell : Spell (head :: body) command.lexemes)
    (index : Nat) :
    ∃ statement, statementOf index head body = .ok statement ∧ statement.command = command := by
  obtain ⟨_, _, same, verbSpeaks, bodySpell⟩ := spell_cons_iff.mp spell
  obtain ⟨rfl, rfl⟩ := List.cons.inj same
  obtain ⟨kindToken, tail, rfl, kindSpeaks, operandsSpell⟩ := spell_cons_iff.mp bodySpell
  refine ⟨⟨index, command.verb, command.kind, command.id, command.fields, head.position⟩, ?_, rfl⟩
  have verb : Verb.ofKeyword? head.text = some command.verb := by
    rw [(face_eq_iff.mp verbSpeaks).2]
    exact Verb.ofKeyword?_keyword command.verb
  simp only [statementOf, verb, List.head?_cons, Option.bind_some, kind?_of_kind kindSpeaks, List.tail_cons,
    operands_spell wellFormed operandsSpell]
  rfl

/-! ## All statements -/

theorem splitAtCommands_append
    {body : List Token}
    (quiet : ∀ token ∈ body, (token.kind == .command) = false)
    (starts : ∀ token ∈ tokens.head?, (token.kind == .command) = true) :
    splitAtCommands (body ++ tokens) = (body, (splitAtCommands tokens).2) := by
  induction body with
  | nil =>
      cases tokens with
      | nil => rfl
      | cons token rest => simp [splitAtCommands, starts token rfl]
  | cons token body inductionHypothesis =>
      obtain ⟨first, further⟩ := List.forall_mem_cons.mp quiet
      rw [List.cons_append, splitAtCommands, inductionHypothesis further]
      simp [first]

/-- A command token and the tokens behind it, up to the next command token, are divided from the rest. -/
theorem splitAtCommands_statement
    {head : Token}
    {body : List Token}
    (isCommand : head.kind = .command)
    (quiet : ∀ token ∈ body, (token.kind == .command) = false)
    (starts : ∀ token ∈ tokens.head?, (token.kind == .command) = true) :
    (splitAtCommands (head :: body ++ tokens)).2 = (head, body) :: (splitAtCommands tokens).2 := by
  rw [List.cons_append, splitAtCommands, splitAtCommands_append quiet starts, isCommand]
  rfl

theorem Spell.forall_mem_kind
    {p : TokenKind → Prop}
    (spell : Spell tokens lexemes)
    (all : ∀ lexeme ∈ lexemes, p lexeme.tokenKind) :
    ∀ token ∈ tokens, p token.kind := by
  intro token member
  have face : token.face ∈ lexemes.map Lexeme.face := spell ▸ List.mem_map_of_mem member
  obtain ⟨lexeme, inLexemes, same⟩ := List.mem_map.mp face
  rw [(face_eq_iff.mp same.symm).1]
  exact all lexeme inLexemes

/-- Behind its verb, a statement has no other. -/
theorem tokenKind_ne_command
    (behind : lexeme ∈ .kind command.kind :: command.operands) :
    lexeme.tokenKind ≠ .command := by
  have operand (notVerb : ∀ verb, lexeme ≠ .verb verb) : lexeme.tokenKind ≠ .command := by
    cases lexeme with
    | verb verb => exact absurd rfl (notVerb verb)
    | name id => rw [Lexeme.tokenKind]; split <;> decide
    | _ => exact TokenKind.noConfusion
  refine operand fun verb isVerb => ?_
  subst isVerb
  obtain ⟨_, kind, id, fields⟩ := command
  cases fields with
  | none => simp [Command.operands] at behind
  | some fields =>
      cases fields with
      | scene start => simp [Command.operands, Fields.lexemes] at behind
      | dialogue text actions => simp [Command.operands, Fields.lexemes] at behind
      | action owner next reply => cases next <;> simp [Command.operands, Fields.lexemes, nextLexeme] at behind

/-- The tokens of a row of statements are divided into them and read one after another. -/
theorem statementsFrom_spell
    {commands : List Command}
    (wellFormed : ∀ command ∈ commands, command.WellFormed)
    (spell : Spell tokens (commands.flatMap Command.lexemes))
    (index : Nat) :
    (∀ token ∈ tokens.head?, (token.kind == .command) = true) ∧
      ∃ statements, statementsFrom index (splitAtCommands tokens).2 = .ok statements ∧
        statements.map Statement.command = commands := by
  induction commands generalizing tokens index with
  | nil =>
      rw [spell_nil_iff.mp spell]
      exact ⟨nofun, [], rfl, rfl⟩
  | cons command commands inductionHypothesis =>
      obtain ⟨commandWellFormed, restWellFormed⟩ := List.forall_mem_cons.mp wellFormed
      obtain ⟨first, further, rfl, firstSpell, furtherSpell⟩ := spell_append_iff.mp spell
      obtain ⟨head, body, rfl, verbSpeaks, bodySpell⟩ := spell_cons_iff.mp firstSpell
      obtain ⟨starts, statements, read, commandsEq⟩ := inductionHypothesis restWellFormed furtherSpell (index + 1)
      obtain ⟨statement, readFirst, commandEq⟩ := statementOf_spell commandWellFormed firstSpell index
      have isCommand : head.kind = .command := (face_eq_iff.mp verbSpeaks).1
      have quiet : ∀ token ∈ body, (token.kind == .command) = false := fun token member =>
        beq_eq_false_iff_ne.mpr
          (bodySpell.forall_mem_kind (p := (· ≠ .command)) (fun _ => tokenKind_ne_command) token member)
      refine ⟨by simpa using isCommand, statement :: statements, ?_, by rw [List.map_cons, commandEq, commandsEq]⟩
      rw [splitAtCommands_statement isCommand quiet starts, statementsFrom, readFirst]
      simp only [Except.mapError, read, bind, Except.bind, pure, Except.pure]

/-- Tokens that say what well-formed statements say are read as these. -/
theorem parse_spell
    {commands : List Command}
    (wellFormed : ∀ command ∈ commands, command.WellFormed)
    (spell : Spell tokens (commands.flatMap Command.lexemes)) :
    ∃ statements, parse tokens = .ok statements ∧ statements.map Statement.command = commands := by
  obtain ⟨starts, statements, read, commandsEq⟩ := statementsFrom_spell wellFormed spell 1
  have front : (splitAtCommands tokens).1 = [] := by
    have divided := splitAtCommands_append (List.forall_mem_nil _) starts
    rw [List.nil_append] at divided
    rw [divided]
  refine ⟨statements, ?_, commandsEq⟩
  rw [parse]
  split
  · rename_i divided
    rw [divided] at read
    exact read
  · rename_i divided
    rw [divided] at front
    cases front

/-! ## Scripts -/

/-- Every row of well-formed statements can be written as a script, which is read as these statements. -/
theorem exists_script
    {commands : List Command}
    (wellFormed : ∀ command ∈ commands, command.WellFormed) :
    ∃ script tokens statements,
      tokenize script = .ok tokens ∧ parse tokens = .ok statements ∧
        statements.map Statement.command = commands := by
  let pieces : List Piece := (commands.flatMap Command.lexemes).map fun lexeme => (lexeme, [' '])
  have legible : ∀ piece ∈ pieces, Piece.Legible piece := by
    intro piece member
    obtain ⟨lexeme, written, rfl⟩ := List.mem_map.mp member
    obtain ⟨command, given, inCommand⟩ := List.mem_flatMap.mp written
    exact ⟨(wellFormed command given).legal lexeme inCommand, .blank (by decide) .nil, nofun⟩
  obtain ⟨tokens, tokenized, faces⟩ := tokenize_write legible
  have spell : Spell tokens (commands.flatMap Command.lexemes) := by
    rw [Spell, faces, List.map_map]
    rfl
  obtain ⟨statements, parsed, commandsEq⟩ := parse_spell wellFormed spell
  exact ⟨_, tokens, statements, tokenized, parsed, commandsEq⟩

end Script
end Parley
