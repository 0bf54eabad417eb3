import Parley.Tool.Outcome

/-!
# The linter

The linter checks one file, or all scripts and documents below a directory, and reports what it finds.
-/

namespace Parley
namespace Tool
namespace Linter

open Integrity (Diagnostics Finding)

/-- How the linter is used. -/
def usage : String := "Usage: dialogue_linter <path> [--config <compiler.ron>] [--notes]"

/-- What the linter is asked to do besides checking its target. -/
structure Options where
  settings : Option String := none
  /-- Whether notes are reported. -/
  notes : Bool := false
  deriving Inhabited

/-- Read the words behind the target, up to the first unknown one. -/
def options (found : Options) : List String → Except String Options
  | [] => .ok found
  | [word] =>
    if word == "--notes" then .ok { found with notes := true } else .error word
  | word :: value :: rest =>
    if word == "--config" then options { found with settings := some value } rest
    else if word == "--notes" then options { found with notes := true } (value :: rest)
    else .error word

/-- The extensions of files that are checked. -/
def checkedExtensions : List String := ["dlg", "json", "ron"]

/-- The files to check: the target itself, or those below it, ordered by the components of their paths. -/
def targets? (files : Files) (target : String) : Option (List String) :=
  if files.isFile target then some [target]
  else if files.isDirectory target then
    let found := (files.filesBelow target).filter fun path => (Path.extension? path).any checkedExtensions.contains
    some (found.mergeSort fun left right => !(Path.names right < Path.names left))
  else none

/-- The tree in a file: of a document if its path has the extension of one, else of a script. -/
def treeIn (compiler : Compiler) (files : Files) (path : String) : Except CompileError Tree := do
  let text ← (files.read path).mapError .file
  match Format.ofPath? path with
  | some format => Compiler.readDocument format text
  | none => compiler.buildScript text

/-- What is found in a file. -/
def inspect (compiler : Compiler) (files : Files) (path : String) : Except CompileError Diagnostics :=
  (treeIn compiler files path).map (Integrity.check compiler.rules)

/-- The number of errors in a file; one that cannot be read counts as one. -/
def errorCount : Except CompileError Diagnostics → Nat
  | .ok found => found.errors.length
  | .error _ => 1

/-- The number of warnings in a file. -/
def warningCount : Except CompileError Diagnostics → Nat
  | .ok found => found.warnings.length
  | .error _ => 0

/-- The line for a finding. -/
def findingLine (label : String) (finding : Finding) : String := s!"  {label}: {finding.message}"

/-- The lines for what is found in a file. -/
def report (notes : Bool) : Except CompileError Diagnostics → List String
  | .error error => [s!"  ERROR: {error.message}"]
  | .ok found =>
    (if found.errors.isEmpty && found.warnings.isEmpty then ["  All checks passed!"] else []) ++
      found.warnings.map (findingLine "WARNING") ++ found.errors.map (findingLine "ERROR") ++
      if notes then found.notes.map (findingLine "NOTE") else []

/-- The sum of what is counted in every file. -/
def total {α : Type} (count : α → Nat) : List α → Nat
  | [] => 0
  | item :: rest => count item + total count rest

/-- The report on files, and its exit code. -/
def lint (compiler : Compiler) (files : Files) (notes : Bool) (paths : List String) : Outcome :=
  let results := paths.map fun path => (path, inspect compiler files path)
  let errors := total (fun (_, result) => errorCount result) results
  let warnings := total (fun (_, result) => warningCount result) results
  { code := if errors = 0 then 0 else 1
    output := lines (["", "=== Dialogue Lint Report ===", ""] ++
      results.flatMap (fun (path, result) => path :: report notes result) ++
      ["", s!"Summary: {paths.length} files, {errors} errors, {warnings} warnings"])
    files }

/-- Run the linter. -/
def run (files : Files) : List String → Outcome
  | [] => .help files usage
  | target :: words =>
    if asksForHelp target then .help files usage
    else
      match options {} words with
      | .error word => .failure files [s!"Unknown argument: {word}"]
      | .ok options =>
        match compilerFor files options.settings with
        | .error error => .failure files [s!"ERROR: Failed to load config: {error.message}"]
        | .ok compiler =>
          match targets? files target with
          | none => .failure files [s!"ERROR: Path '{target}' does not exist"]
          | some paths => lint compiler files options.notes paths

end Linter
end Tool
end Parley
