import Parley.Compiler
import Parley.InPlace

/-!
# Workspaces

A workspace holds the tree that is being worked on.  Calls change the workspace and the files in front of it in place.  A
tree takes the place of another one only after it has been certified, and a file is written only after the tree has a text.
-/

namespace Parley

open Integrity (ValidTree ValidationError)

/-- Why a tree cannot be loaded or saved. -/
inductive WorkspaceError where
  | compile (error : CompileError)
  | validation (error : ValidationError)
  | encode (error : EncodeError)
  | file (error : FileError)
  | unknownFormat (path : String)
  deriving DecidableEq, Inhabited

/-- The words for why a tree cannot be loaded or saved. -/
def WorkspaceError.message : WorkspaceError → String
  | .compile error => error.message
  | .validation error => s!"validation failed: {error.message}"
  | .encode error => s!"encode error: {error.message}"
  | .file error => s!"IO error: {error.message}"
  | .unknownFormat path => s!"unknown document format for '{path}' (expected .json or .ron)"

/-- A compiler, and the tree that is being worked on. -/
structure Workspace where
  compiler : Compiler := {}
  current : Option ValidTree := none
  deriving Inhabited

namespace Workspace

/-- The workspace with another tree. -/
def hold (workspace : Workspace) (valid : ValidTree) : Workspace := { workspace with current := some valid }

/-- The format that a path asks for. -/
def formatFor (path : String) : Except WorkspaceError Format :=
  match Format.ofPath? path with
  | some format => .ok format
  | none => .error (.unknownFormat path)

/-- Hold no tree. -/
def clear (workspace : Workspace) : Workspace := { workspace with current := none }

/-- The tree that is saved: the one that is held, or the empty one. -/
def savedTree (workspace : Workspace) : Tree := (workspace.current.map ValidTree.tree).getD Tree.empty

end Workspace

/-- A workspace, and the files that it reads and writes. -/
structure Desk where
  workspace : Workspace
  files : Files

namespace Desk

/-- What changes a workspace and files in place and may fail on the way. -/
abbrev Work := EStateM WorkspaceError Desk

namespace Work

/-- Hold another tree, and give it back. -/
def hold (valid : ValidTree) : Work ValidTree := do
  modify fun desk => { desk with workspace := desk.workspace.hold valid }
  return valid

/-- Compile a script file, and hold its tree. -/
def loadScript (path : String) : Work ValidTree := do
  let desk ← get
  let script ← MonadExcept.ofExcept ((desk.files.read path).mapError .file)
  let valid ← MonadExcept.ofExcept ((desk.workspace.compiler.compileScript script).mapError .compile)
  hold valid

/-- Read a document file, and hold its tree. -/
def loadDocument (path : String) : Work ValidTree := do
  let desk ← get
  let format ← MonadExcept.ofExcept (Workspace.formatFor path)
  let text ← MonadExcept.ofExcept ((desk.files.read path).mapError .file)
  let valid ← MonadExcept.ofExcept ((desk.workspace.compiler.compileDocument format text).mapError .compile)
  hold valid

/-- Certify a tree, and hold it. -/
def replace (tree : Tree) : Work ValidTree := do
  let desk ← get
  let valid ← MonadExcept.ofExcept ((desk.workspace.compiler.validate tree).mapError .validation)
  hold valid

/-- Hold no tree, and give back the one that was held. -/
def clear : Work (Option ValidTree) := do
  let desk ← get
  set { desk with workspace := desk.workspace.clear }
  return desk.workspace.current

/-- Write the tree to a file, in the format that its path asks for. -/
def save (path : String) : Work Unit := do
  let desk ← get
  let format ← MonadExcept.ofExcept (Workspace.formatFor path)
  let text ← MonadExcept.ofExcept ((desk.workspace.savedTree.encode format).mapError .encode)
  let files ← MonadExcept.ofExcept ((desk.files.write path text).mapError .file)
  set { desk with files }

end Work
end Desk

namespace Workspace

/-- The workspace after a script file was compiled. -/
def loadScript (workspace : Workspace) (files : Files) (path : String) : Except WorkspaceError Workspace :=
  (InPlace.outcome (Desk.Work.loadScript path) ⟨workspace, files⟩).map (·.2.workspace)

/-- The workspace after a document file was read. -/
def loadDocument (workspace : Workspace) (files : Files) (path : String) : Except WorkspaceError Workspace :=
  (InPlace.outcome (Desk.Work.loadDocument path) ⟨workspace, files⟩).map (·.2.workspace)

/-- The workspace after a tree was certified, for which no files are needed. -/
def replace (workspace : Workspace) (tree : Tree) : Except WorkspaceError Workspace :=
  (InPlace.outcome (Desk.Work.replace tree) ⟨workspace, {}⟩).map (·.2.workspace)

/-- The files after the tree was written to one of them. -/
def save (workspace : Workspace) (files : Files) (path : String) : Except WorkspaceError Files :=
  (InPlace.outcome (Desk.Work.save path) ⟨workspace, files⟩).map (·.2.files)

end Workspace
end Parley
