import Parley.Proofs.Script.Grammar

/-!
# Scripts are read by the grammar

Whatever a reader of fields or of a statement takes has the form of what it gives, and where it misses something, one of the
tokens stands in its place or none is left.  So a row of statements is read as these, and anything else is refused at the
first part that is no statement.
-/

namespace Parley
namespace Script

open Text (exists_run takeWhile_run dropWhile_run)

variable {α β : Type} {p : α → Prop} {q : β → Prop} {head token : Token} {tokens body : List Token} {kind : Kind}

/-! ## Readers -/

/-- Reading tokens gives what has a property, or a miss at one of the tokens or behind them. -/
inductive Gives (tokens : List Token) (p : α → Prop) : Except Miss α → Prop where
  | read {result : α} : p result → Gives tokens p (.ok result)
  | missed {miss : Miss} : (∀ token ∈ miss.2, token ∈ tokens) → Gives tokens p (.error miss)

theorem Gives.missed_at
    {expected : Expectation}
    (member : token ∈ tokens) :
    Gives tokens p (.error (expected, some token)) :=
  .missed fun _ found => Option.some.inj found ▸ member

theorem Gives.missed_ahead
    {front rest : List Token}
    {expected : Expectation} :
    Gives (front ++ rest) p (.error (expected, rest.head?)) :=
  .missed fun _ first => List.mem_append_right front (List.mem_of_mem_head? first)

theorem Gives.map
    {reading : Except Miss α}
    (change : α → β)
    (gives : Gives tokens p reading)
    (keeps : ∀ {result}, p result → q (change result)) :
    Gives tokens q (reading.map change) := by
  cases gives with
  | read result => exact .read (keeps result)
  | missed found => exact .missed found

theorem Gives.bind
    {reading : Except Miss α}
    {next : α → Except Miss β}
    {wider : List Token}
    (gives : Gives tokens p reading)
    (within : tokens ⊆ wider)
    (further : ∀ {result}, p result → Gives wider q (next result)) :
    Gives wider q (reading >>= next) := by
  cases gives with
  | read result => exact further result
  | missed found => exact .missed fun token member => within (found token member)

/-! ## Fields -/

/-- Fields of a kind were read from the front of tokens, in their form and behind an identifier, which may be required. -/
inductive FieldsRead (kind : Kind) (required : Bool) (tokens : List Token) : Fields.Reading → Prop where
  | intro (id : Option Token) (written : List Token) {rest : List Token} {fields : Fields} :
      tokens = id.toList ++ (written ++ rest) → (∀ name ∈ id, name.Names) → (required = true → id ≠ none) →
        FieldsForm written fields → fields.kind = kind → FieldsRead kind required tokens (id.map Token.text, fields, rest)

/-- The tokens that begin a list and may name entities, and what is behind them. -/
theorem exists_names
    (tokens : List Token) :
    ∃ names rest, tokens = names ++ rest ∧ (∀ token ∈ names, token.Names) ∧
      tokens.takeWhile Token.isIdentifierLike = names ∧ tokens.dropWhile Token.isIdentifierLike = rest := by
  obtain ⟨names, rest, rfl, all, stops⟩ := exists_run Token.isIdentifierLike tokens
  exact ⟨names, rest, rfl, fun token member => Token.isIdentifierLike_iff.mp (all token member),
    takeWhile_run all stops, dropWhile_run all stops⟩

theorem sceneFields_gives
    (required : Bool)
    (tokens : List Token) :
    Gives tokens (FieldsRead .scene required tokens) (sceneFields required tokens) := by
  obtain ⟨ids, rest, rfl, names, taken, left⟩ := exists_names tokens
  rw [sceneFields, taken, left]
  rcases ids with _ | ⟨first, _ | ⟨second, _ | ⟨extra, further⟩⟩⟩
  · exact .missed_ahead
  · cases required with
    | true => exact .missed_ahead
    | false =>
        exact .read (.intro none [first] rfl (fun _ absent => absurd absent (Option.not_mem_none _)) Bool.noConfusion
          (.scene (names first List.mem_cons_self)) rfl)
  · obtain ⟨idNames, startNames⟩ := List.forall_mem_cons.mp names
    exact .read (.intro (some first) [second] rfl (by simpa using idNames) (fun _ => Option.some_ne_none _)
      (.scene (startNames second List.mem_cons_self)) rfl)
  · exact .missed_at (by simp)

theorem dialogueLine_gives
    (required : Bool)
    (id : Option Token)
    (names : ∀ name ∈ id, name.Names)
    (given : required = true → id ≠ none)
    (tokens : List Token) :
    Gives (id.toList ++ tokens) (FieldsRead .dialogue required (id.toList ++ tokens))
      (dialogueLine (id.map Token.text) tokens) := by
  cases tokens with
  | nil => exact .missed nofun
  | cons line tokens =>
      obtain ⟨actions, rest, rfl, actionNames, taken, left⟩ := exists_names tokens
      rw [dialogueLine, taken, left]
      split
      · rename_i isText
        exact .read (.intro id (line :: actions) rfl names given (.dialogue (beq_iff_eq.mp isText) actionNames) rfl)
      · exact .missed_at (List.mem_append_right _ List.mem_cons_self)

theorem dialogueFields_gives
    (required : Bool)
    (tokens : List Token) :
    Gives tokens (FieldsRead .dialogue required tokens) (dialogueFields required tokens) := by
  obtain ⟨ids, rest, rfl, names, taken, left⟩ := exists_names tokens
  rw [dialogueFields, taken, left]
  rcases ids with _ | ⟨id, _ | ⟨extra, further⟩⟩
  · cases required with
    | true => exact .missed_ahead
    | false =>
        exact dialogueLine_gives false none (fun _ absent => absurd absent (Option.not_mem_none _)) Bool.noConfusion rest
  · have idNames : ∀ name ∈ some id, name.Names := by simpa using names
    exact dialogueLine_gives required (some id) idNames (fun _ => Option.some_ne_none _) rest
  · exact .missed_at (by simp)

/-- A token among the references of an action names an entity unless it is the terminal word. -/
theorem Token.names_of_isReference
    (reference : token.isReference = true)
    (notTerminal : ¬(token.kind == .name) = true) :
    token.Names := by
  rw [isReference, Bool.or_eq_true] at reference
  exact isIdentifierLike_iff.mp (reference.resolve_right notTerminal)

theorem actionReply_gives
    (required : Bool)
    (id : Option Token)
    {owner next : Token}
    (idReference : ∀ token ∈ id, token.isReference = true)
    (given : required = true → id ≠ none)
    (ownerReference : owner.isReference = true)
    (nextReference : next.isReference = true)
    (proper : next.Proper)
    (tokens : List Token) :
    Gives (id.toList ++ owner :: next :: tokens) (FieldsRead .action required (id.toList ++ owner :: next :: tokens))
      (actionReply id owner next tokens) := by
  unfold actionReply
  split
  · exact .missed_at (by simp)
  rename_i ownerNotTerminal
  split
  · exact .missed fun token found => List.mem_append_left _ (Option.mem_toList.mpr found)
  rename_i idNotTerminal
  split
  · exact .missed_at (by simp)
  rename_i target parsed
  have idNames : ∀ token ∈ id, token.Names := by
    rintro token rfl
    exact Token.names_of_isReference (idReference token rfl) idNotTerminal
  have ownerNames := Token.names_of_isReference ownerReference ownerNotTerminal
  have tells := proper.tells nextReference parsed
  -- Unless a text comes next, there is no reply, and nothing is taken.
  have silent (rest : List Token) : Gives (id.toList ++ owner :: next :: rest)
      (FieldsRead .action required (id.toList ++ owner :: next :: rest))
      (.ok (id.map Token.text, .action owner.text target none, rest)) :=
    .read (.intro id [owner, next] rfl idNames given (@FieldsForm.action owner next target none ownerNames tells nofun) rfl)
  split
  · exact silent []
  · rename_i line rest
    split
    · rename_i isText
      have reply : FieldsForm [owner, next, line] (.action owner.text target (some line.text)) :=
        @FieldsForm.action owner next target (some line) ownerNames tells (by simpa using isText)
      exact .read (.intro id [owner, next, line] rfl idNames given reply rfl)
    · exact silent (line :: rest)

theorem actionFields_gives
    (proper : ∀ token ∈ tokens, token.Proper)
    (required : Bool) :
    Gives tokens (FieldsRead .action required tokens) (actionFields required tokens) := by
  obtain ⟨references, rest, rfl, all, stops⟩ := exists_run Token.isReference tokens
  rw [actionFields, takeWhile_run all stops, dropWhile_run all stops]
  rcases references with _ | ⟨first, _ | ⟨second, _ | ⟨third, _ | ⟨extra, further⟩⟩⟩⟩
  · exact .missed_ahead
  · exact .missed_ahead
  · cases required with
    | true => exact .missed_ahead
    | false =>
        exact actionReply_gives false none (fun _ absent => absurd absent (Option.not_mem_none _)) Bool.noConfusion
          (all first (by simp)) (all second (by simp)) (proper second (by simp)) rest
  · have idReference : ∀ token ∈ some first, token.isReference = true := by simpa using all first (by simp)
    exact actionReply_gives required (some first) idReference (fun _ => Option.some_ne_none _) (all second (by simp))
      (all third (by simp)) (proper third (by simp)) rest
  · exact .missed_at (by simp)

theorem fieldsOfKind_gives
    (proper : ∀ token ∈ tokens, token.Proper)
    (kind : Kind)
    (required : Bool) :
    Gives tokens (FieldsRead kind required tokens) (fieldsOfKind kind required tokens) := by
  cases kind with
  | scene => exact sceneFields_gives required tokens
  | dialogue => exact dialogueFields_gives required tokens
  | action => exact actionFields_gives proper required

/-! ## Statements -/

/-- The operands of a statement were read from the front of tokens: behind the words for its verb and its kind, they make up
a statement in its form. -/
inductive OperandsRead (verb : Verb) (kind : Kind) (tokens : List Token) :
    Option String × Option Fields × List Token → Prop where
  | intro (written : List Token) {id : Option String} {fields : Option Fields} {rest : List Token} :
      tokens = written ++ rest →
      (∀ {head kindWord : Token}, head.face = (.command, verb.keyword) → kindWord.face = (.nodeType, kind.keyword) →
        StatementForm (head :: kindWord :: written) ⟨verb, kind, id, fields⟩) →
        OperandsRead verb kind tokens (id, fields, rest)

theorem operands_gives
    (proper : ∀ token ∈ tokens, token.Proper)
    (verb : Verb)
    (kind : Kind) :
    Gives tokens (OperandsRead verb kind tokens) (operands verb kind tokens) := by
  cases verb with
  | create =>
      refine (fieldsOfKind_gives proper kind false).map _ ?_
      rintro _ ⟨id, written, parts, names, _, form, rfl⟩
      refine .intro (id.toList ++ written) (by rw [parts, List.append_assoc]) fun verbWord kindWord => ?_
      exact .create verbWord kindWord names form
  | update =>
      refine (fieldsOfKind_gives proper kind true).map _ ?_
      rintro _ ⟨id, written, parts, names, given, form, rfl⟩
      obtain ⟨name, rfl⟩ := Option.ne_none_iff_exists'.mp (given rfl)
      refine .intro (name :: written) parts fun verbWord kindWord => ?_
      exact .update verbWord kindWord (names name rfl) form
  | delete =>
      cases tokens with
      | nil => exact .missed nofun
      | cons token rest =>
          rw [operands]
          split
          · rename_i like
            refine .read (.intro [token] rfl fun verbWord kindWord => ?_)
            exact .delete verbWord kindWord (Token.isIdentifierLike_iff.mp like)
          · exact .missed_at List.mem_cons_self

theorem Verb.keyword_of_ofKeyword?
    {word : String}
    {verb : Verb}
    (known : ofKeyword? word = some verb) :
    word = verb.keyword := by
  unfold ofKeyword? at known
  split at known <;> cases known <;> rfl

theorem Token.face_of_kind?
    (known : token.kind? = some kind) :
    token.face = (.nodeType, kind.keyword) := by
  unfold kind? at known
  split at known
  · rename_i nodeType
    rw [face, beq_iff_eq.mp nodeType]
    unfold Kind.ofKeyword? at known
    split at known <;> cases known <;> simp_all [Kind.keyword]
  · cases known

/-- What is read as a statement has its form, and gets its number and the position of its command token. -/
theorem statementOf_gives
    (isCommand : head.kind = .command)
    (proper : ∀ token ∈ body, token.Proper)
    (index : Nat) :
    Gives (head :: body)
      (fun statement => ∃ command, StatementForm (head :: body) command ∧
        statement = command.toStatement index head.position)
      (statementOf index head body) := by
  unfold statementOf
  split
  · rename_i verb knownVerb
    have verbWord : head.face = (.command, verb.keyword) := by
      rw [Token.face, isCommand, Verb.keyword_of_ofKeyword? knownVerb]
    dsimp only
    split
    · rename_i kind knownKind
      cases body with
      | nil => cases knownKind
      | cons kindToken tail =>
          have kindWord := Token.face_of_kind? knownKind
          have within : tail ⊆ head :: kindToken :: tail := fun _ member =>
            List.mem_cons_of_mem _ (List.mem_cons_of_mem _ member)
          refine (operands_gives (List.forall_mem_cons.mp proper).2 verb kind).bind within ?_
          rintro ⟨id, fields, rest⟩ ⟨written, rfl, form⟩
          dsimp only
          split
          · refine .read ⟨⟨verb, kind, id, fields⟩, ?_, rfl⟩
            rw [List.append_nil]
            exact form verbWord kindWord
          · rename_i extra further
            exact .missed_at (by simp)
    · exact .missed fun _ found => List.mem_cons_of_mem _ (List.mem_of_mem_head? found)
  · exact .missed_at List.mem_cons_self

/-- A statement in its form is read, and gets its number and the position of its command token. -/
theorem statementOf_of_form
    {command : Command}
    (form : StatementForm (head :: body) command)
    (proper : ∀ token ∈ head :: body, token.Proper)
    (index : Nat) :
    statementOf index head body = .ok (command.toStatement index head.position) := by
  obtain ⟨statement, read, same⟩ := statementOf_spell (form.wellFormed proper) (form.spell proper) index
  have isCommand : head.kind = .command := form.opens head rfl
  have gives := statementOf_gives isCommand (List.forall_mem_cons.mp proper).2 index
  rw [read] at gives ⊢
  obtain ⟨_, _, rfl⟩ := gives
  obtain rfl := same
  rfl

/-! ## Rows of statements -/

/-- A command token and the tokens behind it, up to the next one. -/
def Part (part : Token × List Token) : Prop := part.1.kind = .command ∧ ∀ token ∈ part.2, token.kind ≠ .command

/-- All tokens of command tokens with the tokens behind them. -/
def joined (parts : List (Token × List Token)) : List Token := parts.flatMap fun (head, body) => head :: body

/-- Tokens are divided in front of their command tokens. -/
theorem splitAtCommands_divides
    (tokens : List Token) :
    tokens = (splitAtCommands tokens).1 ++ joined (splitAtCommands tokens).2 ∧
      (∀ token ∈ (splitAtCommands tokens).1, token.kind ≠ .command) ∧ ∀ part ∈ (splitAtCommands tokens).2, Part part := by
  induction tokens with
  | nil => exact ⟨rfl, nofun, nofun⟩
  | cons token rest inductionHypothesis =>
      obtain ⟨parts, front, behind⟩ := inductionHypothesis
      rw [splitAtCommands]
      dsimp only
      split
      · rename_i isCommand
        exact ⟨congrArg (token :: ·) parts, List.forall_mem_nil _,
          List.forall_mem_cons.mpr ⟨⟨beq_iff_eq.mp isCommand, front⟩, behind⟩⟩
      · rename_i notCommand
        exact ⟨congrArg (token :: ·) parts, List.forall_mem_cons.mpr ⟨mt beq_iff_eq.mpr notCommand, front⟩, behind⟩

theorem opensStatement_joined
    {parts : List (Token × List Token)}
    (divided : ∀ part ∈ parts, Part part) :
    OpensStatement (joined parts) := by
  cases parts with
  | nil => exact nofun
  | cons part parts =>
      rintro _ ⟨⟩
      exact (divided part List.mem_cons_self).1

/-- Whatever is read as statements is a row of them. -/
theorem row_of_statementsFrom
    {parts : List (Token × List Token)}
    {index : Nat}
    {statements : List Statement}
    (divided : ∀ part ∈ parts, Part part)
    (proper : ∀ token ∈ joined parts, token.Proper)
    (read : statementsFrom index parts = .ok statements) :
    Row index (joined parts) statements := by
  induction parts generalizing index statements with
  | nil =>
      cases read
      exact .nil
  | cons part parts inductionHypothesis =>
      obtain ⟨head, body⟩ := part
      obtain ⟨⟨isCommand, _⟩, furtherDivided⟩ := List.forall_mem_cons.mp divided
      obtain ⟨statementProper, furtherProper⟩ := List.forall_mem_append.mp proper
      rw [statementsFrom] at read
      obtain ⟨statement, readFirst, read⟩ := bind_eq_ok_iff.mp read
      obtain ⟨further, readFurther, read⟩ := bind_eq_ok_iff.mp read
      cases read
      have gives := statementOf_gives isCommand (List.forall_mem_cons.mp statementProper).2 index
      rw [mapError_eq_ok_iff.mp readFirst] at gives
      obtain ⟨command, form, rfl⟩ := gives
      exact .cons form (inductionHypothesis furtherDivided furtherProper readFurther)

/-- An error stands at the token that was found, or at the last one of the statement if there is none. -/
theorem exists_mem_ofMiss_position
    {miss : Miss}
    (found : ∀ token ∈ miss.2, token ∈ head :: body)
    (index : Nat) :
    ∃ token ∈ head :: body, (ParseError.ofMiss index (head :: body) miss).position = some token.position := by
  obtain ⟨expected, place⟩ := miss
  cases place with
  | some token => exact ⟨token, found token rfl, rfl⟩
  | none =>
      refine ⟨(head :: body).getLast (List.cons_ne_nil _ _), List.getLast_mem _, ?_⟩
      rw [ParseError.ofMiss, Option.none_or, List.getLast?_eq_some_getLast (List.cons_ne_nil _ _)]
      rfl

/-- Whatever is refused is a row of statements up to a part that is none, at which the error is. -/
theorem flawed_of_statementsFrom
    {parts : List (Token × List Token)}
    {index : Nat}
    {error : ParseError}
    (divided : ∀ part ∈ parts, Part part)
    (proper : ∀ token ∈ joined parts, token.Proper)
    (refused : statementsFrom index parts = .error error) :
    Flawed index (joined parts) error := by
  induction parts generalizing index with
  | nil => cases refused
  | cons part parts inductionHypothesis =>
      obtain ⟨head, body⟩ := part
      obtain ⟨⟨isCommand, quiet⟩, furtherDivided⟩ := List.forall_mem_cons.mp divided
      obtain ⟨statementProper, furtherProper⟩ := List.forall_mem_append.mp proper
      have opens := opensStatement_joined furtherDivided
      have gives := statementOf_gives isCommand (List.forall_mem_cons.mp statementProper).2 index
      rw [statementsFrom] at refused
      cases read : statementOf index head body with
      | error miss =>
          rw [read] at refused gives
          cases refused
          cases gives with | missed found =>
          refine .here ⟨List.cons_ne_nil _ _, quiet, opens⟩ (fun command form => ?_) rfl
            (exists_mem_ofMiss_position found index)
          cases read.symm.trans (statementOf_of_form form statementProper index)
      | ok statement =>
          rw [read] at refused gives
          obtain ⟨command, form, rfl⟩ := gives
          rcases bind_eq_error_iff.mp refused with refused | ⟨_, _, refused⟩
          · cases refused
          rcases bind_eq_error_iff.mp refused with refused | ⟨_, _, refused⟩
          · exact .later form opens (inductionHypothesis furtherDivided furtherProper refused)
          · cases refused

/-- A row of statements is read as these. -/
theorem statementsFrom_of_row
    {index : Nat}
    {statements : List Statement}
    (row : Row index tokens statements)
    (proper : ∀ token ∈ tokens, token.Proper) :
    OpensStatement tokens ∧ statementsFrom index (splitAtCommands tokens).2 = .ok statements := by
  induction row with
  | nil => exact ⟨nofun, rfl⟩
  | @cons index head body rest command statements form _ inductionHypothesis =>
      obtain ⟨statementProper, furtherProper⟩ := List.forall_mem_append.mp proper
      obtain ⟨restOpens, readRest⟩ := inductionHypothesis furtherProper
      have isCommand : head.kind = .command := form.opens head rfl
      have quiet : ∀ token ∈ body, (token.kind == .command) = false := fun token member =>
        beq_eq_false_iff_ne.mpr (form.quiet statementProper token member)
      have restStarts : ∀ token ∈ rest.head?, (token.kind == .command) = true := fun token first =>
        beq_iff_eq.mpr (restOpens token first)
      refine ⟨fun token first => form.opens token first, ?_⟩
      rw [splitAtCommands_statement isCommand quiet restStarts, statementsFrom, statementOf_of_form form statementProper,
        readRest]
      rfl

/-- What does not begin with a command is refused at its first token. -/
theorem parse_of_not_opens
    (notOpens : ¬OpensStatement tokens) :
    ∃ error, parse tokens = .error error ∧ error.index = 1 ∧ Flawed 1 tokens error := by
  obtain ⟨parts, quiet, divided⟩ := splitAtCommands_divides tokens
  unfold parse
  split
  · rename_i behind split
    rw [split] at parts divided
    rw [parts] at notOpens
    exact absurd (opensStatement_joined divided) notOpens
  · rename_i first further behind split
    rw [split] at parts quiet divided
    refine ⟨_, rfl, rfl, ?_⟩
    rw [parts]
    have furtherQuiet : ∀ token ∈ further, token.kind ≠ .command := (List.forall_mem_cons.mp quiet).2
    exact .here ⟨List.cons_ne_nil _ _, furtherQuiet, opensStatement_joined divided⟩
      (fun command form => quiet first List.mem_cons_self (form.opens first rfl)) rfl ⟨first, List.mem_cons_self, rfl⟩

/-- Tokens of a script are read as the row of statements that they are, or refused where they are none. -/
theorem row_or_flawed
    (proper : ∀ token ∈ tokens, token.Proper) :
    (∃ statements, parse tokens = .ok statements ∧ Row 1 tokens statements) ∨
      ∃ error, parse tokens = .error error ∧ Flawed 1 tokens error ∧ (¬OpensStatement tokens → error.index = 1) := by
  by_cases opens : OpensStatement tokens
  · obtain ⟨parts, _, divided⟩ := splitAtCommands_divides tokens
    rw [opens.splitAtCommands, List.nil_append] at parts
    have partsProper : ∀ token ∈ joined (splitAtCommands tokens).2, token.Proper := parts ▸ proper
    rw [parse_of_opens opens]
    cases outcome : statementsFrom 1 (splitAtCommands tokens).2 with
    | ok statements =>
        have row := row_of_statementsFrom divided partsProper outcome
        exact .inl ⟨statements, rfl, parts ▸ row⟩
    | error error =>
        have flawed := flawed_of_statementsFrom divided partsProper outcome
        exact .inr ⟨error, rfl, parts ▸ flawed, fun notOpens => absurd opens notOpens⟩
  · obtain ⟨error, refused, index, flawed⟩ := parse_of_not_opens opens
    exact .inr ⟨error, refused, flawed, fun _ => index⟩

theorem row_of_parse
    {statements : List Statement}
    (proper : ∀ token ∈ tokens, token.Proper)
    (read : parse tokens = .ok statements) :
    Row 1 tokens statements := by
  rcases row_or_flawed proper with ⟨others, readOthers, row⟩ | ⟨error, refused, _⟩
  · cases read.symm.trans readOthers
    exact row
  · cases read.symm.trans refused

theorem Row.wellFormed
    {index : Nat}
    {statements : List Statement}
    (row : Row index tokens statements)
    (proper : ∀ token ∈ tokens, token.Proper) :
    ∀ statement ∈ statements, statement.command.WellFormed := by
  induction row with
  | nil => exact nofun
  | cons form _ inductionHypothesis =>
      obtain ⟨statementProper, furtherProper⟩ := List.forall_mem_append.mp proper
      exact List.forall_mem_cons.mpr ⟨form.wellFormed statementProper, inductionHypothesis furtherProper⟩

/-- Every statement that is read from a script is well formed. -/
theorem wellFormed_of_parse
    {script : String}
    {statements : List Statement}
    (tokenized : tokenize script = .ok tokens)
    (read : parse tokens = .ok statements) :
    ∀ statement ∈ statements, statement.command.WellFormed := by
  have proper := proper_of_tokenize tokenized
  exact (row_of_parse proper read).wellFormed proper

/-- The tokens of a script are read as statements just if they are a row of statements in their forms, and then these are
read, numbered from one on and with the positions of their command tokens.  Otherwise there is an error, with the number of the
first part that is no statement and the position of a token of this part; if no command begins the tokens, the number is
one. -/
theorem parse_iff_row
    {script : String}
    (tokenized : tokenize script = .ok tokens) :
    (∀ statements, parse tokens = .ok statements ↔ Row 1 tokens statements) ∧
      ((¬∃ statements, Row 1 tokens statements) →
        ∃ error, parse tokens = .error error ∧ Flawed 1 tokens error ∧ (¬OpensStatement tokens → error.index = 1)) := by
  have proper := proper_of_tokenize tokenized
  refine ⟨fun statements => ⟨row_of_parse proper, fun row => ?_⟩, fun noRow => ?_⟩
  · obtain ⟨opens, read⟩ := statementsFrom_of_row row proper
    exact (parse_of_opens opens).trans read
  · exact (row_or_flawed proper).resolve_left fun ⟨statements, _, row⟩ => noRow ⟨statements, row⟩

/-- A script of three statements. -/
def tidyScript : String := "create scene s d\nupdate action a d end \"Bye.\"\ndelete dialogue d\n"

def tidyStatements : List Statement :=
  [⟨1, .create, .scene, some "s", some (.scene "d"), ⟨0, 1, 1⟩⟩,
    ⟨2, .update, .action, some "a", some (.action "d" .finish (some "Bye.")), ⟨17, 2, 1⟩⟩,
    ⟨3, .delete, .dialogue, some "d", none, ⟨46, 3, 1⟩⟩]

/-- A script of a statement and of one that lacks an identifier. -/
def untidyScript : String := "delete scene s\nupdate dialogue \"Oh?\"\n"

def untidyError : ParseError :=
  ⟨2, .dialogueIdentifier, some ⟨.text, "Oh?", ⟨31, 2, 17⟩⟩, some ⟨31, 2, 17⟩⟩

/-- The one script is a row of its statements, and the other is flawed at its second. -/
theorem row_tidyScript_flawed_untidyScript :
    (∃ tokens, tokenize tidyScript = .ok tokens ∧ Row 1 tokens tidyStatements) ∧
      ∃ tokens, tokenize untidyScript = .ok tokens ∧ parse tokens = .error untidyError ∧ Flawed 1 tokens untidyError := by
  have tidy : (tokenize tidyScript).map parse = .ok (.ok tidyStatements) := by decide +kernel
  have untidy : (tokenize untidyScript).map parse = .ok (.error untidyError) := by decide +kernel
  obtain ⟨tidyTokens, tidyTokenized, read⟩ := map_eq_ok_iff.mp tidy
  obtain ⟨untidyTokens, untidyTokenized, refused⟩ := map_eq_ok_iff.mp untidy
  refine ⟨⟨tidyTokens, tidyTokenized, ((parse_iff_row tidyTokenized).1 _).mp read⟩,
    untidyTokens, untidyTokenized, refused, ?_⟩
  have noRow : ¬∃ statements, Row 1 untidyTokens statements := by
    rintro ⟨statements, row⟩
    cases refused.symm.trans (((parse_iff_row untidyTokenized).1 statements).mpr row)
  obtain ⟨error, same, flawed, _⟩ := (parse_iff_row untidyTokenized).2 noRow
  cases same.symm.trans refused
  exact flawed

end Script
end Parley
