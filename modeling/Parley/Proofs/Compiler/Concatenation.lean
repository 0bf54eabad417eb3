import Parley.Compiler
import Parley.Proofs.Compiler.Spelling
import Parley.Proofs.Draft.Steps
import Parley.Proofs.Script.LeadStatements
import Parley.Proofs.Script.LeadTokens

/-!
# Scripts one behind the other

What a script says does not depend on what is in front of it, save that its places and the numbers of its statements are
counted on from there.  So two scripts with a line feed between them say what the first says and then what the second says.
-/

namespace Parley

open Script (Lead LexError OpensStatement ParseError Statement parse shiftStatements shiftTokens tokenize)

namespace Draft

variable {draft : Draft} {statement : Statement}

/-- A statement does the same, or is refused for the same reason, whatever its number is. -/
theorem apply_shift
    (lead : Lead)
    (count : Nat)
    (draft : Draft)
    (statement : Statement) :
    draft.apply (statement.shift lead count) = (draft.apply statement).mapError (BuildError.shift count) := by
  obtain ⟨index, verb, kind, id, fields, position⟩ := statement
  cases verb with
  | create =>
      simp only [apply, create, entityOf, createdId, Statement.shift, bind, Except.bind]
      cases fields with
      | none => rfl
      | some fields =>
          by_cases same : fields.kind = kind
          · simp only [same, if_true]
            cases draft.insert _ <;> rfl
          · simp only [same, if_false]
            rfl
  | update =>
      simp only [apply, update, requiredId, entityOf, absent, Statement.shift, bind, Except.bind]
      cases id with
      | none => rfl
      | some id =>
          cases fields with
          | none => rfl
          | some fields =>
              by_cases same : fields.kind = kind
              · simp only [same, if_true]
                cases draft.tree.replace? _ <;> rfl
              · simp only [same, if_false]
                rfl
  | delete =>
      simp only [apply, delete, requiredId, absent, Statement.shift, bind, Except.bind]
      cases id with
      | none => rfl
      | some id =>
          simp only
          cases draft.tree.remove? kind id <;> rfl

theorem applyAll_shift
    (lead : Lead)
    (count : Nat)
    (draft : Draft)
    (statements : List Statement) :
    draft.applyAll (statements.map (Statement.shift lead count)) =
      (draft.applyAll statements).mapError (BuildError.shift count) := by
  induction statements generalizing draft with
  | nil => rfl
  | cons statement rest inductionHypothesis =>
      rw [List.map_cons, applyAll_cons, applyAll_cons, apply_shift]
      cases draft.apply statement with
      | error error => rfl
      | ok changed => exact inductionHypothesis changed

theorem applyAll_append
    (draft : Draft)
    (front behind : List Statement) :
    draft.applyAll (front ++ behind) = (draft.applyAll front).bind (·.applyAll behind) := by
  induction front generalizing draft with
  | nil => rfl
  | cons statement rest inductionHypothesis =>
      rw [List.cons_append, applyAll_cons, applyAll_cons]
      cases draft.apply statement with
      | error error => rfl
      | ok changed => exact inductionHypothesis changed

end Draft

namespace Compiler

/-- What a script does to a draft that others have worked on, with the places and numbers of its faults counted on. -/
def continueScript (lead : Lead) (count : Nat) (draft : Draft) (script : String) : Except CompileError Tree := do
  let tokens ← (tokenize script).mapError fun error => .lex (error.shift lead)
  let statements ← (parse tokens).mapError fun error => .parse (error.shift lead count)
  let changed ← (draft.applyAll statements).mapError fun error => .build (error.shift count)
  return changed.finish

/-- A script without a fault, a line feed, and a further script that begins with a command if it has any tokens.  The
tokens are those of both, the further ones counted on by the bytes and lines in front, or there is the lexical fault of the
further script, counted on.  The statements are those of both, the further ones counted on by the number of statements in
front too, or there is the faulty statement of the further script, counted on.  The tree that is built is what the further
script makes of the unfinished draft of the first, or there is the refusal that it meets with, counted on. -/
theorem buildScript_lineFeed
    {compiler : Compiler}
    {front behind : String}
    {tokens : List Script.Token}
    {statements : List Statement}
    {draft : Draft}
    (tokenized : tokenize front = .ok tokens)
    (parsed : parse tokens = .ok statements)
    (applied : (Draft.empty.withIdWidth compiler.idWidth).applyAll statements = .ok draft)
    (opens : ∀ further, tokenize behind = .ok further → OpensStatement further) :
    tokenize (front ++ "\n" ++ behind) = (shiftTokens (.of front) (tokenize behind)).map (tokens ++ ·) ∧
      (∀ further, tokenize behind = .ok further →
        parse (tokens ++ further.map (Script.Token.shift (.of front))) =
          (shiftStatements (.of front) statements.length (parse further)).map (statements ++ ·)) ∧
      compiler.buildScript (front ++ "\n" ++ behind) =
        continueScript (.of front) statements.length draft behind := by
  have allTokens : tokenize (front ++ "\n" ++ behind) = (shiftTokens (.of front) (tokenize behind)).map (tokens ++ ·) :=
    Script.tokenize_lineFeed tokenized
  have allStatements (further : List Script.Token) (read : tokenize behind = .ok further) :=
    Script.parse_append_shift (.of front) parsed (opens further read)
  refine ⟨allTokens, allStatements, ?_⟩
  rw [buildScript, allTokens, continueScript]
  cases read : tokenize behind with
  | error error => rfl
  | ok further =>
      simp only [shiftTokens, Except.mapError, Except.map, bind, Except.bind, allStatements further read]
      cases parse further with
      | error error => rfl
      | ok others =>
          simp only [shiftStatements, Except.mapError, Except.map, Draft.applyAll_append, applied, Except.bind,
            Draft.applyAll_shift]
          cases draft.applyAll others <;> rfl

/-- A script that ends in a comment without a line feed. -/
def greeting : String := "create dialogue d \"Hi\nthere\"\n# the end"

/-- The tokens of the greeting. -/
def greetingTokens : List Script.Token :=
  [⟨.command, "create", ⟨0, 1, 1⟩⟩, ⟨.nodeType, "dialogue", ⟨7, 1, 8⟩⟩, ⟨.identifier, "d", ⟨16, 1, 17⟩⟩,
    ⟨.text, "Hi\nthere", ⟨18, 1, 19⟩⟩]

/-- A script that goes on from the greeting, and then asks for what neither of them has. -/
def farewell : String := "create action d end \"Bye\"\nupdate dialogue e \"x\""

theorem opensStatement_farewell : ∀ further, tokenize farewell = .ok further → OpensStatement further := by
  have kinds : (tokenize farewell).map (·.head?.map (·.kind)) = .ok (some .command) := by cbv
  obtain ⟨tokens, read, kind⟩ := map_eq_ok_iff.mp kinds
  intro further again token first
  cases read.symm.trans again
  rw [first] at kind
  exact Option.some.inj kind

/-- Behind the greeting, the farewell begins in the fourth line, and its second statement is the third of all. -/
theorem buildScript_greeting :
    tokenize greeting = .ok greetingTokens ∧
      parse greetingTokens = .ok [⟨1, .create, .dialogue, some "d", some (.dialogue "Hi\nthere" []), ⟨0, 1, 1⟩⟩] ∧
      (∀ further, tokenize farewell = .ok further → OpensStatement further) ∧
      (tokenize (greeting ++ "\n" ++ farewell)).map (·[4]?) = .ok (some ⟨.command, "create", ⟨39, 4, 1⟩⟩) ∧
      ({} : Compiler).buildScript (greeting ++ "\n" ++ farewell) =
        .error (.build (.notFound 3 .update .dialogue "e")) := by
  have tokenized : tokenize greeting = .ok greetingTokens := by cbv
  have parsed :
      parse greetingTokens = .ok [⟨1, .create, .dialogue, some "d", some (.dialogue "Hi\nthere" []), ⟨0, 1, 1⟩⟩] := by
    cbv
  have continued :
      ((Draft.empty.withIdWidth ({} : Compiler).idWidth).applyAll
          [⟨1, .create, .dialogue, some "d", some (.dialogue "Hi\nthere" []), ⟨0, 1, 1⟩⟩]).map
        (continueScript (.of greeting) 1 · farewell) = .ok (.error (.build (.notFound 3 .update .dialogue "e"))) := by
    cbv
  obtain ⟨draft, applied, refused⟩ := map_eq_ok_iff.mp continued
  obtain ⟨allTokens, _, built⟩ := buildScript_lineFeed tokenized parsed applied opensStatement_farewell
  rw [allTokens, built]
  refine ⟨tokenized, parsed, opensStatement_farewell, ?_, refused⟩
  cbv

end Compiler
end Parley
