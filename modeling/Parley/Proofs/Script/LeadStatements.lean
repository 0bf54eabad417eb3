import Parley.Proofs.Script.Lead
import Parley.Proofs.Stages

/-!
# Statements of a script behind another one

Reading statements depends on where tokens stand only in the positions that it gives, and on the number of a statement only
in the number that it gives.  A command token begins a statement whatever is in front of it.
-/

namespace Parley
namespace Script

variable {lead : Lead} {count : Nat} {tokens front behind : List Token}

/-! ## Tokens that stand elsewhere -/

@[simp] theorem Token.kind_shift (lead : Lead) (token : Token) : (token.shift lead).kind = token.kind := rfl

@[simp] theorem Token.text_shift (lead : Lead) (token : Token) : (token.shift lead).text = token.text := rfl

@[simp] theorem Token.isIdentifierLike_comp_shift
    (lead : Lead) :
    Token.isIdentifierLike ∘ Token.shift lead = Token.isIdentifierLike := rfl

@[simp] theorem Token.isReference_comp_shift (lead : Lead) : Token.isReference ∘ Token.shift lead = Token.isReference := rfl

@[simp] theorem Token.text_comp_shift (lead : Lead) : Token.text ∘ Token.shift lead = Token.text := rfl

/-- What is missing in a statement of a script, as in the script that it stands in. -/
def shiftMiss (lead : Lead) (miss : Miss) : Miss := (miss.1, miss.2.map (Token.shift lead))

/-- What was read in front of some tokens of a script, as in the script that it stands in. -/
def shiftReading {α β : Type} (lead : Lead) (read : Except Miss (α × β × List Token)) : Except Miss (α × β × List Token) :=
  (read.mapError (shiftMiss lead)).map fun (id, fields, rest) => (id, fields, rest.map (Token.shift lead))

theorem miss_head?
    {α β : Type}
    (expected : Expectation)
    (tokens : List Token) :
    (.error (expected, (tokens.map (Token.shift lead)).head?) : Except Miss (α × β × List Token)) =
      shiftReading lead (.error (expected, tokens.head?)) := by
  rw [List.head?_map]
  rfl

/-! ## Fields -/

theorem sceneFields_shift
    (lead : Lead)
    (required : Bool)
    (tokens : List Token) :
    sceneFields required (tokens.map (Token.shift lead)) = shiftReading lead (sceneFields required tokens) := by
  simp only [sceneFields, List.takeWhile_map, List.dropWhile_map, Token.isIdentifierLike_comp_shift]
  generalize tokens.takeWhile Token.isIdentifierLike = ids
  generalize tokens.dropWhile Token.isIdentifierLike = rest
  match ids with
  | [] => exact miss_head? _ rest
  | [_] =>
    cases required with
    | true => exact miss_head? _ rest
    | false => rfl
  | [_, _] => rfl
  | _ :: _ :: _ :: _ => rfl

theorem dialogueLine_shift
    (lead : Lead)
    (id : Option String)
    (tokens : List Token) :
    dialogueLine id (tokens.map (Token.shift lead)) = shiftReading lead (dialogueLine id tokens) := by
  cases tokens with
  | nil => rfl
  | cons token rest =>
      simp only [List.map_cons, dialogueLine, Token.kind_shift, Token.text_shift, List.takeWhile_map, List.dropWhile_map,
        Token.isIdentifierLike_comp_shift, List.map_map, Token.text_comp_shift]
      split <;> rfl

theorem dialogueFields_shift
    (lead : Lead)
    (required : Bool)
    (tokens : List Token) :
    dialogueFields required (tokens.map (Token.shift lead)) = shiftReading lead (dialogueFields required tokens) := by
  simp only [dialogueFields, List.takeWhile_map, List.dropWhile_map, Token.isIdentifierLike_comp_shift]
  generalize tokens.takeWhile Token.isIdentifierLike = ids
  generalize tokens.dropWhile Token.isIdentifierLike = rest
  match ids with
  | [] =>
    cases required with
    | true => exact miss_head? _ rest
    | false => exact dialogueLine_shift lead none rest
  | [id] => exact dialogueLine_shift lead (some id.text) rest
  | _ :: _ :: _ => rfl

theorem actionReply_shift
    (lead : Lead)
    (id : Option Token)
    (owner next : Token)
    (tokens : List Token) :
    actionReply (id.map (Token.shift lead)) (owner.shift lead) (next.shift lead) (tokens.map (Token.shift lead)) =
      shiftReading lead (actionReply id owner next tokens) := by
  have isTerminal : (id.map (Token.shift lead)).any (·.kind == .name) = id.any (·.kind == .name) := by cases id <;> rfl
  have text : (id.map (Token.shift lead)).map Token.text = id.map Token.text := by cases id <;> rfl
  simp only [actionReply, Token.kind_shift, Token.text_shift, isTerminal, text]
  split
  · rfl
  · split
    · rfl
    · cases Next.parse? next.text with
      | none => rfl
      | some target =>
          cases tokens with
          | nil => rfl
          | cons token rest =>
              by_cases ofText : (token.kind == .text) = true
              · simp only [List.map_cons, Token.kind_shift, Token.text_shift, ofText, if_true]
                rfl
              · simp only [List.map_cons, Token.kind_shift, Token.text_shift, ofText]
                rfl

theorem actionFields_shift
    (lead : Lead)
    (required : Bool)
    (tokens : List Token) :
    actionFields required (tokens.map (Token.shift lead)) = shiftReading lead (actionFields required tokens) := by
  simp only [actionFields, List.takeWhile_map, List.dropWhile_map, Token.isReference_comp_shift]
  generalize tokens.takeWhile Token.isReference = references
  generalize tokens.dropWhile Token.isReference = rest
  match references with
  | [] => exact miss_head? _ rest
  | [_] => exact miss_head? _ rest
  | [owner, next] =>
    cases required with
    | true => exact miss_head? _ rest
    | false => exact actionReply_shift lead none owner next rest
  | [id, owner, next] => exact actionReply_shift lead (some id) owner next rest
  | _ :: _ :: _ :: _ :: _ => rfl

theorem fieldsOfKind_shift
    (lead : Lead)
    (kind : Kind)
    (required : Bool)
    (tokens : List Token) :
    fieldsOfKind kind required (tokens.map (Token.shift lead)) = shiftReading lead (fieldsOfKind kind required tokens) := by
  cases kind with
  | scene => exact sceneFields_shift lead required tokens
  | dialogue => exact dialogueFields_shift lead required tokens
  | action => exact actionFields_shift lead required tokens

theorem operands_shift
    (lead : Lead)
    (verb : Verb)
    (kind : Kind)
    (tokens : List Token) :
    operands verb kind (tokens.map (Token.shift lead)) = shiftReading lead (operands verb kind tokens) := by
  cases verb with
  | create =>
      simp only [operands, fieldsOfKind_shift]
      cases fieldsOfKind kind false tokens <;> rfl
  | update =>
      simp only [operands, fieldsOfKind_shift]
      cases fieldsOfKind kind true tokens <;> rfl
  | delete =>
      cases tokens with
      | nil => rfl
      | cons token rest =>
          have same : (token.shift lead).isIdentifierLike = token.isIdentifierLike := rfl
          simp only [operands, List.map_cons, same, Token.text_shift]
          split <;> rfl

/-! ## Statements -/

/-- A statement reads the same wherever its tokens stand and whatever its number is. -/
theorem statementOf_shift
    (lead : Lead)
    (count index : Nat)
    (head : Token)
    (body : List Token) :
    statementOf (count + index) (head.shift lead) (body.map (Token.shift lead)) =
      ((statementOf index head body).mapError (shiftMiss lead)).map (Statement.shift lead count) := by
  have kind : (body.map (Token.shift lead)).head?.bind Token.kind? = body.head?.bind Token.kind? := by
    cases body <;> rfl
  have tail : (body.map (Token.shift lead)).tail = body.tail.map (Token.shift lead) := List.map_tail.symm
  unfold statementOf
  rw [Token.text_shift, kind, tail]
  cases Verb.ofKeyword? head.text with
  | none => rfl
  | some verb =>
      cases body.head?.bind Token.kind? with
      | none =>
          rw [List.head?_map]
          rfl
      | some kind =>
          dsimp only
          rw [operands_shift]
          match operands verb kind body.tail with
          | .error _ => rfl
          | .ok (_, _, []) => rfl
          | .ok (_, _, _ :: _) => rfl

theorem ofMiss_shift
    (lead : Lead)
    (count index : Nat)
    (statement : List Token)
    (miss : Miss) :
    ParseError.ofMiss (count + index) (statement.map (Token.shift lead)) (shiftMiss lead miss) =
      (ParseError.ofMiss index statement miss).shift lead count := by
  obtain ⟨expected, found⟩ := miss
  have place : (found.map (Token.shift lead)).or (statement.map (Token.shift lead)).getLast? =
      (found.or statement.getLast?).map (Token.shift lead) := by
    rw [List.getLast?_map]
    cases found <;> rfl
  simp only [ParseError.ofMiss, shiftMiss, ParseError.shift, place, Option.map_map]
  rfl

/-- The statements of a script as statements of the script that it stands in, and its fault likewise. -/
def shiftStatements (lead : Lead) (count : Nat) (read : Except ParseError (List Statement)) :
    Except ParseError (List Statement) :=
  (read.mapError (ParseError.shift lead count)).map (List.map (Statement.shift lead count))

/-- Divided tokens of a script as those of the script that it stands in. -/
def shiftParts (lead : Lead) (parts : List (Token × List Token)) : List (Token × List Token) :=
  parts.map fun (head, body) => (head.shift lead, body.map (Token.shift lead))

theorem statementsFrom_shift
    (lead : Lead)
    (count index : Nat)
    (parts : List (Token × List Token)) :
    statementsFrom (count + index) (shiftParts lead parts) =
      shiftStatements lead count (statementsFrom index parts) := by
  induction parts generalizing index with
  | nil => rfl
  | cons part rest inductionHypothesis =>
      obtain ⟨head, body⟩ := part
      have further := inductionHypothesis (index + 1)
      simp only [shiftParts] at further
      simp only [shiftParts, List.map_cons, statementsFrom, statementOf_shift, Nat.add_assoc, further]
      cases statementOf index head body with
      | error miss => exact congrArg Except.error (ofMiss_shift lead count index (head :: body) miss)
      | ok statement => cases statementsFrom (index + 1) rest <;> rfl

/-- Statements in front that are read without a fault are followed by those behind, which count on. -/
theorem statementsFrom_append
    {index : Nat}
    {parts others : List (Token × List Token)}
    {statements : List Statement}
    (read : statementsFrom index parts = .ok statements) :
    statementsFrom index (parts ++ others) =
      (statementsFrom (statements.length + index) others).map (statements ++ ·) := by
  induction parts generalizing index statements with
  | nil =>
      cases read
      rw [List.nil_append, List.length_nil, Nat.zero_add]
      cases statementsFrom index others <;> rfl
  | cons part rest inductionHypothesis =>
      obtain ⟨head, body⟩ := part
      rw [statementsFrom] at read
      obtain ⟨statement, first, read⟩ := bind_eq_ok_iff.mp read
      obtain ⟨further, readFurther, read⟩ := bind_eq_ok_iff.mp read
      cases read
      rw [List.cons_append, statementsFrom, first, inductionHypothesis readFurther, List.length_cons,
        show further.length + (index + 1) = further.length + 1 + index by omega]
      cases statementsFrom (further.length + 1 + index) others <;> rfl

/-! ## Whole scripts -/

theorem splitAtCommands_shift
    (lead : Lead)
    (tokens : List Token) :
    splitAtCommands (tokens.map (Token.shift lead)) =
      ((splitAtCommands tokens).1.map (Token.shift lead), shiftParts lead (splitAtCommands tokens).2) := by
  induction tokens with
  | nil => rfl
  | cons token rest inductionHypothesis =>
      simp only [List.map_cons, splitAtCommands, inductionHypothesis, Token.kind_shift]
      split <;> rfl

/-- Tokens begin with a command token, if there are any. -/
def OpensStatement (tokens : List Token) : Prop := ∀ token ∈ tokens.head?, token.kind = .command

theorem OpensStatement.splitAtCommands
    (opens : OpensStatement tokens) :
    (splitAtCommands tokens).1 = [] := by
  cases tokens with
  | nil => rfl
  | cons token rest =>
      have command : token.kind = .command := opens token rfl
      simp only [Script.splitAtCommands, command]
      rfl

theorem parse_of_opens
    (opens : OpensStatement tokens) :
    parse tokens = statementsFrom 1 (splitAtCommands tokens).2 := by
  have alone := opens.splitAtCommands
  unfold parse
  split <;> rename_i divided <;> rw [divided] at alone ⊢
  cases alone

theorem splitAtCommands_append_of_opens
    (opens : OpensStatement behind) :
    splitAtCommands (front ++ behind) =
      ((splitAtCommands front).1, (splitAtCommands front).2 ++ (splitAtCommands behind).2) := by
  induction front with
  | nil => exact Prod.ext opens.splitAtCommands rfl
  | cons token rest inductionHypothesis =>
      simp only [List.cons_append, splitAtCommands, inductionHypothesis]
      split <;> rfl

/-- The statements of tokens that are read without a fault are followed by those of the tokens behind them, if these begin
with a command, and are counted on. -/
theorem parse_append_shift
    {statements : List Statement}
    (lead : Lead)
    (read : parse front = .ok statements)
    (opens : OpensStatement behind) :
    parse (front ++ behind.map (Token.shift lead)) =
      (shiftStatements lead statements.length (parse behind)).map (statements ++ ·) := by
  have opensMoved : OpensStatement (behind.map (Token.shift lead)) := by
    intro token first
    rw [List.head?_map] at first
    obtain ⟨original, there, rfl⟩ := Option.map_eq_some_iff.mp first
    exact opens original there
  rw [parse_of_opens opens, ← statementsFrom_shift]
  unfold parse at read ⊢
  rw [splitAtCommands_append_of_opens opensMoved, splitAtCommands_shift]
  split at read
  · rename_i parts divided
    rw [divided]
    exact statementsFrom_append read
  · cases read

end Script
end Parley
