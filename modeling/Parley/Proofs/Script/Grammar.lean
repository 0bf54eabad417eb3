import Parley.Proofs.Script.LeadStatements
import Parley.Proofs.Script.Lexing
import Parley.Proofs.Script.Statements

/-!
# The grammar of scripts

A script is a row of statements, each of one of a few forms of tokens.  The tokens of a statement in its form are those of
its words and texts in the order in which they are written, so they are read as the statement.
-/

namespace Parley
namespace Script

variable {token head : Token} {tokens part body rest written : List Token} {fields : Fields} {command : Command}

/-! ## Forms -/

/-- A token that names an entity. -/
def Token.Names (token : Token) : Prop := token.kind = .identifier ∨ token.kind = .number

/-- A token that says what follows an action: the dialogue that it names, or nothing. -/
inductive Token.Tells (token : Token) : Next → Prop where
  | dialogue : token.Names → token.Tells (.dialogue token.text)
  | finish : token.kind = .name → token.Tells .finish

/-- The forms of the fields of an entity, and what they say. -/
inductive FieldsForm : List Token → Fields → Prop where
  /-- The dialogue that the scene starts with. -/
  | scene {start : Token} : start.Names → FieldsForm [start] (.scene start.text)
  /-- The text, and the actions on offer. -/
  | dialogue {line : Token} {actions : List Token} :
      line.kind = .text → (∀ action ∈ actions, action.Names) →
        FieldsForm (line :: actions) (.dialogue line.text (actions.map Token.text))
  /-- The dialogue that offers the action, what follows it, and the text, which may be missing. -/
  | action {owner next : Token} {target : Next} {reply : Option Token} :
      owner.Names → next.Tells target → (∀ line ∈ reply, line.kind = .text) →
        FieldsForm (owner :: next :: reply.toList) (.action owner.text target (reply.map Token.text))

/-- The forms of statements, and what they say. -/
inductive StatementForm : List Token → Command → Prop where
  /-- The identifier of what is created may be missing. -/
  | create {head kind : Token} {id : Option Token} {written : List Token} {fields : Fields} :
      head.face = (.command, Verb.create.keyword) → kind.face = (.nodeType, fields.kind.keyword) →
        (∀ name ∈ id, name.Names) → FieldsForm written fields →
        StatementForm (head :: kind :: (id.toList ++ written)) ⟨.create, fields.kind, id.map Token.text, some fields⟩
  | update {head kind id : Token} {written : List Token} {fields : Fields} :
      head.face = (.command, Verb.update.keyword) → kind.face = (.nodeType, fields.kind.keyword) →
        id.Names → FieldsForm written fields →
        StatementForm (head :: kind :: id :: written) ⟨.update, fields.kind, some id.text, some fields⟩
  | delete {head kindToken id : Token} {kind : Kind} :
      head.face = (.command, Verb.delete.keyword) → kindToken.face = (.nodeType, kind.keyword) → id.Names →
        StatementForm [head, kindToken, id] ⟨.delete, kind, some id.text, none⟩

/-! ## Rows of statements -/

/-- The statement that says something, with its number and the place of its verb. -/
def Command.toStatement (command : Command) (index : Nat) (position : Position) : Statement :=
  ⟨index, command.verb, command.kind, command.id, command.fields, position⟩

/-- Tokens are a row of statements in their forms, and these are the statements, numbered from `index` on and with the
positions of their command tokens. -/
inductive Row : Nat → List Token → List Statement → Prop where
  | nil {index : Nat} : Row index [] []
  | cons {index : Nat} {head : Token} {body rest : List Token} {command : Command} {statements : List Statement} :
      StatementForm (head :: body) command → Row (index + 1) rest statements →
        Row index (head :: body ++ rest) (command.toStatement index head.position :: statements)

/-- Some tokens reach from the front of a list to the next command token. -/
structure ReachesCommand (part rest : List Token) : Prop where
  ne_nil : part ≠ []
  quiet : ∀ token ∈ part.tail, token.kind ≠ .command
  opens : OpensStatement rest

/-- Tokens are a row of statements, numbered from `index` on, up to a part that is none, and an error has the number of this
part and the position of one of its tokens. -/
inductive Flawed : Nat → List Token → ParseError → Prop where
  | here {index : Nat} {part rest : List Token} {error : ParseError} :
      ReachesCommand part rest → (∀ command, ¬StatementForm part command) → error.index = index →
        (∃ token ∈ part, error.position = some token.position) → Flawed index (part ++ rest) error
  | later {index : Nat} {part rest : List Token} {command : Command} {error : ParseError} :
      StatementForm part command → OpensStatement rest → Flawed (index + 1) rest error →
        Flawed index (part ++ rest) error

/-! ## Tokens of a script -/

/-- A token is a quoted text, or it is a word of the language. -/
def Token.Proper (token : Token) : Prop := token.kind = .text ∨ WordOf token.kind token.text

theorem proper_of_lexical
    {start : Position}
    {cs : List Char}
    (lexical : Lexical start cs tokens) :
    ∀ token ∈ tokens, token.Proper := by
  induction lexical with
  | ending _ => exact nofun
  | lexeme _ lexeme _ _ inductionHypothesis =>
      refine List.forall_mem_cons.mpr ⟨?_, inductionHypothesis⟩
      cases lexeme with
      | word ofWord => exact .inr ofWord
      | text _ => exact .inl rfl

/-- All tokens of a script are texts or words of the language. -/
theorem proper_of_tokenize
    {script : String}
    (read : tokenize script = .ok tokens) :
    ∀ token ∈ tokens, token.Proper :=
  proper_of_lexical (lexical_of_tokensFrom read)

theorem Token.isIdentifierLike_iff :
    token.isIdentifierLike = true ↔ token.Names := by
  rw [isIdentifierLike, Bool.or_eq_true, beq_iff_eq, beq_iff_eq, Names]

/-- A token that names an entity says a legal name. -/
theorem Token.Proper.name
    (proper : token.Proper)
    (names : token.Names) :
    token.face = (Lexeme.name token.text).face ∧ (Lexeme.name token.text).Legal := by
  obtain ⟨kind, word, position⟩ := token
  rw [face_eq_iff]
  rcases names with rfl | rfl
  · cases proper.resolve_left TokenKind.noConfusion with
    | identifier legal other =>
        obtain ⟨c, member, notDigit⟩ := other
        have mixed : ¬word.toList.all Char.isDigit = true := fun all =>
          Bool.eq_false_iff.mp notDigit (List.all_eq_true.mp all c member)
        exact ⟨⟨(if_neg mixed).symm, rfl⟩, legal⟩
  · cases proper.resolve_left TokenKind.noConfusion with
    | number nonempty digits =>
        exact ⟨⟨(if_pos (List.all_eq_true.mpr digits)).symm, rfl⟩, Identifier.isLegal_of_digits nonempty digits⟩

/-- A token that says what follows an action says it by a legal name or by the terminal word. -/
theorem Token.Proper.next
    {target : Next}
    (proper : token.Proper)
    (tells : token.Tells target) :
    token.face = (nextLexeme target).face ∧ (nextLexeme target).Legal := by
  cases tells with
  | dialogue names => exact proper.name names
  | finish terminal =>
      obtain ⟨kind, word, position⟩ := token
      obtain rfl : kind = .name := terminal
      cases proper.resolve_left TokenKind.noConfusion
      exact ⟨rfl, trivial⟩

/-- A token that is read as what follows an action says it. -/
theorem Token.Proper.tells
    {target : Next}
    (proper : token.Proper)
    (reference : token.isReference = true)
    (parsed : Next.parse? token.text = some target) :
    token.Tells target := by
  obtain ⟨textEq, legal⟩ := Next.parse?_eq_some_iff.mp parsed
  rw [isReference, Bool.or_eq_true, isIdentifierLike_iff, beq_iff_eq] at reference
  rcases reference with names | terminal
  · cases target with
    | dialogue id =>
        obtain rfl : id = token.text := textEq
        exact .dialogue names
    | finish =>
        have nameLegal : Identifier.isLegal token.text = true := (proper.name names).2
        rw [← textEq] at nameLegal
        exact absurd nameLegal (by decide)
  · cases target with
    | dialogue id =>
        obtain ⟨kind, word, position⟩ := token
        obtain rfl : kind = .name := terminal
        cases proper.resolve_left TokenKind.noConfusion
        obtain rfl : id = Identifier.terminal := textEq
        exact absurd (legal rfl) (by decide)
    | finish => exact .finish terminal

/-! ## Forms are read -/

theorem face_of_text
    (isText : token.kind = .text) :
    token.face = (Lexeme.text token.text).face :=
  face_eq_iff.mpr ⟨isText, rfl⟩

theorem spell_names
    (proper : ∀ token ∈ tokens, token.Proper)
    (names : ∀ token ∈ tokens, token.Names) :
    Spell tokens ((tokens.map Token.text).map .name) := by
  rw [Spell, List.map_map, List.map_map]
  exact List.map_congr_left fun token member => ((proper token member).name (names token member)).1

/-- Fields in their form are spelled as their lexemes. -/
theorem FieldsForm.spell
    (form : FieldsForm written fields)
    (proper : ∀ token ∈ written, token.Proper) :
    Spell written fields.lexemes := by
  cases form with
  | scene names =>
      exact spell_names proper (List.forall_mem_singleton.mpr names)
  | dialogue isText names =>
      exact spell_cons_iff.mpr ⟨_, _, rfl, face_of_text isText, spell_names (List.forall_mem_cons.mp proper).2 names⟩
  | @action owner next target reply names tells isText =>
      obtain ⟨ownerProper, behind⟩ := List.forall_mem_cons.mp proper
      refine spell_cons_iff.mpr ⟨_, _, rfl, (ownerProper.name names).1, spell_cons_iff.mpr ⟨_, _, rfl, ?_, ?_⟩⟩
      · exact ((List.forall_mem_cons.mp behind).1.next tells).1
      · cases reply with
        | none => exact spell_nil_iff.mpr rfl
        | some line => exact spell_cons_iff.mpr ⟨_, _, rfl, face_of_text (isText line rfl), rfl⟩

/-- Lexemes that tokens of a script spell are legal. -/
theorem Spell.legal
    {lexemes : List Lexeme}
    (spell : Spell tokens lexemes)
    (proper : ∀ token ∈ tokens, token.Proper) :
    ∀ lexeme ∈ lexemes, lexeme.Legal := by
  intro lexeme member
  have face : lexeme.face ∈ tokens.map Token.face := spell ▸ List.mem_map_of_mem member
  obtain ⟨token, inTokens, speaks⟩ := List.mem_map.mp face
  cases lexeme with
  | name id =>
      have names := Token.isIdentifierLike_iff.mp (isIdentifierLike_of_name speaks)
      have legal := ((proper token inTokens).name names).2
      rwa [(face_eq_iff.mp speaks).2] at legal
  | _ => trivial

theorem FieldsForm.spell_operands
    {id : Option Token}
    (form : FieldsForm written fields)
    (names : ∀ name ∈ id, name.Names)
    (proper : ∀ token ∈ id.toList ++ written, token.Proper)
    (verb : Verb) :
    Spell (id.toList ++ written) (Command.operands ⟨verb, fields.kind, id.map Token.text, some fields⟩) := by
  obtain ⟨idProper, writtenProper⟩ := List.forall_mem_append.mp proper
  refine spell_append_iff.mpr ⟨_, _, rfl, ?_, by simpa using form.spell writtenProper⟩
  rw [Option.toList_map]
  exact spell_names idProper fun name member => names name (Option.mem_toList.mp member)

/-- A statement in its form is spelled as its lexemes. -/
theorem StatementForm.spell
    (form : StatementForm part command)
    (proper : ∀ token ∈ part, token.Proper) :
    Spell part command.lexemes := by
  have operands {head kind : Token} {operands : List Token}
      (proper : ∀ token ∈ head :: kind :: operands, token.Proper) : ∀ token ∈ operands, token.Proper :=
    (List.forall_mem_cons.mp (List.forall_mem_cons.mp proper).2).2
  cases form with
  | create verbWord kindWord names form =>
      exact spell_cons_iff.mpr ⟨_, _, rfl, verbWord, spell_cons_iff.mpr ⟨_, _, rfl, kindWord,
        form.spell_operands names (operands proper) .create⟩⟩
  | @update _ _ id _ _ verbWord kindWord names form =>
      have idNames : ∀ name ∈ some id, name.Names := by simpa using names
      exact spell_cons_iff.mpr ⟨_, _, rfl, verbWord, spell_cons_iff.mpr ⟨_, _, rfl, kindWord,
        form.spell_operands idNames (operands proper) .update⟩⟩
  | delete verbWord kindWord names =>
      exact spell_cons_iff.mpr ⟨_, _, rfl, verbWord, spell_cons_iff.mpr ⟨_, _, rfl, kindWord,
        spell_names (operands proper) (List.forall_mem_singleton.mpr names)⟩⟩

theorem StatementForm.wellFormed
    (form : StatementForm part command)
    (proper : ∀ token ∈ part, token.Proper) :
    command.WellFormed := by
  have legal := (form.spell proper).legal proper
  cases form with
  | create _ _ _ _ =>
      refine ⟨fun notCreate => absurd rfl notCreate, iff_of_false (Option.some_ne_none _) Verb.noConfusion, ?_, legal⟩
      rintro _ ⟨⟩
      rfl
  | update _ _ _ _ =>
      refine ⟨fun _ => Option.some_ne_none _, iff_of_false (Option.some_ne_none _) Verb.noConfusion, ?_, legal⟩
      rintro _ ⟨⟩
      rfl
  | delete _ _ _ => exact ⟨fun _ => Option.some_ne_none _, iff_of_true rfl rfl, nofun, legal⟩

theorem StatementForm.opens
    (form : StatementForm part command) :
    OpensStatement part := by
  cases form with
  | create verbWord _ _ _ | update verbWord _ _ _ | delete verbWord _ _ =>
      rintro _ ⟨⟩
      exact congrArg Prod.fst verbWord

/-- Behind the word for its verb, a statement in its form has no command token. -/
theorem StatementForm.quiet
    (form : StatementForm (head :: body) command)
    (proper : ∀ token ∈ head :: body, token.Proper) :
    ∀ token ∈ body, token.kind ≠ .command := by
  obtain ⟨_, _, same, _, bodySpell⟩ := spell_cons_iff.mp (form.spell proper)
  obtain ⟨rfl, rfl⟩ := List.cons.inj same
  exact bodySpell.forall_mem_kind (p := (· ≠ .command)) fun _ => tokenKind_ne_command

end Script
end Parley
