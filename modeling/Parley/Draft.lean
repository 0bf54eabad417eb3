import Parley.Tree
import Parley.Script.Statement

/-!
# Drafts

A draft is a tree under construction.  Statements are applied to it one after another; one that asks for the impossible
is refused and changes nothing.  Finishing a draft enters every action in the list of its owner.  Whether references
lead anywhere is left to the integrity check.
-/

namespace Parley

open Script (Statement Verb)

/-- What a statement lacks. -/
inductive MissingPart where
  | identifier
  | fields
  | matchingFields
  deriving DecidableEq, Inhabited

/-- The words for what a statement lacks. -/
def MissingPart.label : MissingPart → String
  | .identifier => "an identifier"
  | .fields => "its fields"
  | .matchingFields => "fields matching its type"

/-- Why a statement cannot be applied to a draft. -/
inductive BuildError where
  /-- The identifier is taken. -/
  | duplicateId (index : Nat) (kind : Kind) (id : String)
  /-- There is nothing to update or delete. -/
  | notFound (index : Nat) (verb : Verb) (kind : Kind) (id : String)
  /-- The statement does not say enough. -/
  | incomplete (index : Nat) (verb : Verb) (kind : Kind) (missing : MissingPart)
  deriving DecidableEq, Inhabited

/-- The words for a refusal. -/
def BuildError.message : BuildError → String
  | .duplicateId index kind id => s!"command {index}: {kind.keyword} '{id}' already exists"
  | .notFound index verb kind id =>
    s!"command {index}: cannot {verb.keyword} {kind.keyword} '{id}': no such {kind.keyword}"
  | .incomplete index verb kind missing =>
    s!"command {index}: {verb.keyword} {kind.keyword} is missing {missing.label}"

/-- The places to which identifiers of the library's own are filled up. -/
def defaultIdWidth : Nat := 4

/-- A tree under construction, and how the library spells identifiers of its own. -/
structure Draft where
  tree : Tree := Tree.empty
  /-- Identifiers of the library's own have at least so many places. -/
  idWidth : Nat := defaultIdWidth
  idWidth_pos : 0 < idWidth := by decide

namespace Draft

/-- A draft with nothing in it. -/
def empty : Draft := {}

/-- A draft of an existing tree. -/
def ofTree (tree : Tree) : Draft := { tree }

/-- The draft with another width of identifiers; a width of zero counts as one. -/
def withIdWidth (draft : Draft) (width : Nat) : Draft :=
  { draft with idWidth := max width 1, idWidth_pos := Nat.le_max_right width 1 }

/-- Add an entity whose identifier is free. -/
def insert (draft : Draft) (entity : Entity) : Except DuplicateId Draft :=
  (draft.tree.insert entity).map fun tree => { draft with tree }

/-! ## Identifiers of the library's own -/

/-- The numbers of a kind's identifiers, whether an entity has them or only points at them. -/
def takenNumbers (draft : Draft) (kind : Kind) : List Nat :=
  (draft.tree.ids kind ++ draft.tree.references kind).filterMap Identifier.number?

/-- The least number that a list leaves out. -/
def leastFree (taken : List Nat) : Nat :=
  ((List.range (taken.length + 1)).find? (fun number => !taken.contains number)).getD 0

/-- The free identifier of a kind with the least number. -/
def nextId (draft : Draft) (kind : Kind) : String :=
  Identifier.ofNumber (leastFree (draft.takenNumbers kind)) draft.idWidth

/-! ## Statements -/

/-- The entity that a statement describes, under an identifier. -/
def entityOf (statement : Statement) (id : String) (context : Context) : Except BuildError Entity :=
  match statement.fields with
  | none => .error (.incomplete statement.index statement.verb statement.kind .fields)
  | some fields =>
    if fields.kind = statement.kind then .ok (fields.toEntity id context)
    else .error (.incomplete statement.index statement.verb statement.kind .matchingFields)

/-- The identifier that a statement gives. -/
def requiredId (statement : Statement) : Except BuildError String :=
  match statement.id with
  | none => .error (.incomplete statement.index statement.verb statement.kind .identifier)
  | some id => .ok id

/-- The refusal to change what is not there. -/
def absent (statement : Statement) (id : String) : BuildError :=
  .notFound statement.index statement.verb statement.kind id

/-- The identifier under which a statement creates an entity. -/
def createdId (draft : Draft) (statement : Statement) : String :=
  statement.id.getD (draft.nextId statement.kind)

/-- Add the entity that a statement describes, with an empty context. -/
def create (draft : Draft) (statement : Statement) : Except BuildError Draft := do
  let entity ← entityOf statement (draft.createdId statement) Context.empty
  (draft.insert entity).mapError fun duplicate => .duplicateId statement.index duplicate.kind duplicate.id

/-- Exchange an entity for the one that a statement describes.  The context stays. -/
def update (draft : Draft) (statement : Statement) : Except BuildError Draft := do
  let id ← requiredId statement
  let old := draft.tree.get? statement.kind id
  let entity ← entityOf statement id (old.elim Context.empty Entity.context)
  match draft.tree.replace? entity with
  | some (_, tree) => return { draft with tree }
  | none => throw (absent statement id)

/-- Take out the entity that a statement names. -/
def delete (draft : Draft) (statement : Statement) : Except BuildError Draft := do
  let id ← requiredId statement
  match draft.tree.remove? statement.kind id with
  | some (_, tree) => return { draft with tree }
  | none => throw (absent statement id)

/-- Do what a statement says. -/
def apply (draft : Draft) (statement : Statement) : Except BuildError Draft :=
  match statement.verb with
  | .create => draft.create statement
  | .update => draft.update statement
  | .delete => draft.delete statement

/-- Do what a statement says if that is possible. -/
def attempt (draft : Draft) (statement : Statement) : Draft :=
  match draft.apply statement with
  | .ok changed => changed
  | .error _ => draft

/-- Do what statements say, up to the first one that is refused: the draft so far, and the refusal. -/
def applyUntil (draft : Draft) : List Statement → Draft × Option BuildError
  | [] => (draft, none)
  | statement :: rest =>
    match draft.apply statement with
    | .ok changed => changed.applyUntil rest
    | .error error => (draft, some error)

/-- Do what all statements say. -/
def applyAll (draft : Draft) (statements : List Statement) : Except BuildError Draft :=
  match draft.applyUntil statements with
  | (changed, none) => .ok changed
  | (_, some error) => .error error

/-! ## Finishing -/

/-- Whether an action is missing from the list of its owner. -/
def isUnlisted (tree : Tree) (action : Action) : Bool :=
  match tree.dialogues.get? action.owner with
  | some owner => !owner.offers action.id
  | none => false

/-- Enter an action at the end of its owner's list. -/
def link (tree : Tree) (action : Action) : Tree :=
  match tree.dialogues.get? action.owner with
  | some owner => ((tree.replace? (.dialogue (owner.withAction action.id))).map Prod.snd).getD tree
  | none => tree

/-- The tree of a draft, with every action in the list of its owner.  Actions that were not listed come last, in the
order of their table. -/
def finish (draft : Draft) : Tree :=
  (draft.tree.actions.values.filter (isUnlisted draft.tree)).foldl link draft.tree

/-- The tree that statements describe by themselves. -/
def build (statements : List Statement) : Except BuildError Tree :=
  (Draft.empty.applyAll statements).map finish

end Draft
end Parley
