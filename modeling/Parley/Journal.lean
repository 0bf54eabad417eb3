import Parley.Conversation
import Parley.Text.Escape
import Parley.Workspace

/-!
# The journal

The journal tells what the library does, in the order in which it does it.  Its entries follow from what an operation is
given, so operations do not carry them along.
-/

namespace Parley

open Integrity (OrphanPolicy Rules ValidTree check)
open Script (Statement tokenize parse)

namespace Journal

/-- How much an entry matters. -/
inductive Level where
  | trace
  | debug
  | info
  | warn
  deriving DecidableEq, Inhabited

/-- The word for a level. -/
def Level.label : Level → String
  | .trace => "TRACE"
  | .debug => "DEBUG"
  | .info => "INFO"
  | .warn => "WARN"

/-- One entry. -/
structure Entry where
  level : Level
  message : String
  deriving DecidableEq, Inhabited

/-- What an operation tells if it succeeds. -/
def onSuccess {ε α : Type} (result : Except ε α) (tell : α → List Entry) : List Entry :=
  match result with
  | .ok value => tell value
  | .error _ => []

/-! ## Building -/

/-- The identifier of a statement, as the journal writes it. -/
def idText : Option String → String
  | none => "None"
  | some id => s!"Some({Text.quoted id})"

/-- What a creation tells: the identifier that it makes up. -/
def creation (draft : Draft) (statement : Statement) : List Entry :=
  match statement.id with
  | some _ => []
  | none =>
    [⟨.debug, s!"command {statement.index}: assigned {statement.kind.keyword} id '{draft.createdId statement}'"⟩]

/-- What a deletion tells: the identifier that is gone. -/
def deletion (draft : Draft) (statement : Statement) : List Entry :=
  onSuccess (draft.delete statement) fun _ =>
    statement.id.toList.map fun id =>
      ⟨.debug, s!"command {statement.index}: deleted {statement.kind.keyword} '{id}'"⟩

/-- What applying a statement tells. -/
def application (draft : Draft) (statement : Statement) : List Entry :=
  ⟨.trace, s!"command {statement.index}: {statement.verb.keyword} {statement.kind.keyword} {idText statement.id}"⟩ ::
    match statement.verb with
    | .create => creation draft statement
    | .update => []
    | .delete => deletion draft statement

/-- What applying statements tells, up to the first one that is refused. -/
def applications (draft : Draft) : List Statement → List Entry
  | [] => []
  | statement :: rest =>
    application draft statement ++
      onSuccess (draft.apply statement) fun changed => applications changed rest

/-- What applying statements tells if refusals are passed over. -/
def attempts (draft : Draft) : List Statement → List Entry
  | [] => []
  | statement :: rest => application draft statement ++ attempts (draft.attempt statement) rest

/-! ## Checking -/

/-- What a check tells. -/
def checking (rules : Rules) (tree : Tree) : List Entry :=
  let found := check rules tree
  let orphans := if rules.orphanPolicy = .warn then found.warnings.filter (·.matter = .orphan) else []
  orphans.map (fun orphan => ⟨.warn, s!"dialogue '{orphan.id}' is not reachable from any scene"⟩) ++
    [⟨.debug, s!"validated {tree.scenes.size} scenes, {tree.dialogues.size} dialogues, " ++
      s!"{tree.actions.size} actions: {found.errors.length} errors, {found.warnings.length} warnings, " ++
      s!"{found.notes.length} notes"⟩]

/-! ## Compiling -/

/-- What building a script tells. -/
def scriptBuilding (compiler : Compiler) (script : String) : List Entry :=
  onSuccess (tokenize script) fun tokens =>
    onSuccess (parse tokens) fun statements =>
      ⟨.debug, s!"{tokens.length} tokens, {statements.length} commands"⟩ ::
        applications (Draft.empty.withIdWidth compiler.idWidth) statements

/-- What compiling a script tells. -/
def scriptCompiling (compiler : Compiler) (script : String) : List Entry :=
  scriptBuilding compiler script ++
    onSuccess (compiler.buildScript script) (checking compiler.rules)

/-- What compiling a document tells. -/
def documentCompiling (compiler : Compiler) (format : Format) (text : String) : List Entry :=
  onSuccess (Compiler.readDocument format text) (checking compiler.rules)

/-! ## Loading and saving -/

/-- What loading a script tells. -/
def scriptLoading (workspace : Workspace) (files : Files) (path : String) : List Entry :=
  onSuccess (files.read path) (scriptCompiling workspace.compiler) ++
    onSuccess (workspace.loadScript files path) fun _ => [⟨.debug, s!"loaded script '{path}'"⟩]

/-- What loading a document tells. -/
def documentLoading (workspace : Workspace) (files : Files) (path : String) : List Entry :=
  onSuccess (Workspace.formatFor path) (fun format =>
    onSuccess (files.read path) (documentCompiling workspace.compiler format)) ++
    onSuccess (workspace.loadDocument files path) fun _ => [⟨.debug, s!"loaded document '{path}'"⟩]

/-- What taking over a tree tells. -/
def replacing (workspace : Workspace) (tree : Tree) : List Entry := checking workspace.compiler.rules tree

/-- What saving tells. -/
def saving (workspace : Workspace) (files : Files) (path : String) : List Entry :=
  onSuccess (workspace.save files path) fun _ =>
    [⟨.info, s!"saved {workspace.savedTree.size} entities to '{path}'"⟩]

/-! ## Playing -/

/-- What entering a scene tells. -/
def starting (valid : ValidTree) (scene : String) : List Entry :=
  (valid.tree.scenes.get? scene).toList.map fun entry =>
    ⟨.trace, s!"scene '{entry.id}' starts at dialogue '{entry.start}'"⟩

/-- What following an action tells. -/
def following (action : Action) : List Entry :=
  match action.next with
  | .dialogue next => [⟨.trace, s!"'{action.owner}' -> '{next}' via action '{action.id}'"⟩]
  | .finish => [⟨.trace, s!"'{action.owner}' -> end via action '{action.id}'"⟩]

/-- What a choice by identifier tells. -/
def choosing (valid : ValidTree) (conversation : Conversation) (action : String) : List Entry :=
  onSuccess (conversation.named valid action) following

/-- What a choice by place tells. -/
def choosingNth (valid : ValidTree) (conversation : Conversation) (index : Nat) : List Entry :=
  onSuccess (conversation.nth valid index) following

/-- What going back to the start tells. -/
def restarting (valid : ValidTree) (conversation : Conversation) : List Entry :=
  (valid.tree.scenes.get? conversation.scene).toList.map fun entry =>
    ⟨.trace, s!"scene '{entry.id}' restarts"⟩

end Journal
end Parley
