import Parley.Tool.Outcome
import Parley.Workspace

/-!
# The script compiler

The script compiler turns a script file into a document file.
-/

namespace Parley
namespace Tool
namespace ScriptCompiler

open Integrity (ValidTree)

/-- How the script compiler is used. -/
def usage : String :=
  "Usage: script_compiler --input <script.dlg> --output <tree.json|tree.ron> [--config <compiler.ron>]"

/-- What the script compiler is asked to do. -/
structure Options where
  input : Option String := none
  output : Option String := none
  settings : Option String := none
  deriving Inhabited

/-- Why the script compiler does nothing. -/
inductive Stop where
  | help
  | unknown (word : String)

/-- Read words up to the first one that stops the script compiler. -/
def options (found : Options) : List String → Except Stop Options
  | [] => .ok found
  | [word] => if asksForHelp word then .error .help else .error (.unknown word)
  | word :: value :: rest =>
    if word == "--input" then options { found with input := some value } rest
    else if word == "--output" then options { found with output := some value } rest
    else if word == "--config" then options { found with settings := some value } rest
    else if asksForHelp word then .error .help
    else .error (.unknown word)

/-- The lines about a compiled tree. -/
def report (valid : ValidTree) : List String :=
  [s!"Compiled: {valid.tree.scenes.size} scenes, {valid.tree.dialogues.size} dialogues, " ++
    s!"{valid.tree.actions.size} actions"] ++
    valid.diagnostics.warnings.map (fun warning => s!"WARNING: {warning.message}") ++
    if valid.diagnostics.notes.isEmpty then []
    else [s!"{valid.diagnostics.notes.length} dialogues sit on cycles"]

/-- Compile a script file into a document file. -/
def compile (files : Files) (compiler : Compiler) (input output : String) : Outcome :=
  let opening := s!"Compiling '{input}'..."
  let workspace : Workspace := { compiler }
  match workspace.loadScript files input with
  | .error error => (Outcome.failure files [s!"Error: {error.message}"]).after [opening]
  | .ok loaded =>
    let told := opening :: (loaded.current.map report).getD []
    match loaded.save files output with
    | .error error =>
      (Outcome.failure files [s!"Error writing output file '{output}': {error.message}"]).after told
    | .ok files => { code := 0, output := lines (told ++ [s!"Document saved to '{output}'"]), files }

/-- Run the script compiler. -/
def run (files : Files) (words : List String) : Outcome :=
  match options {} words with
  | .error .help => .help files usage
  | .error (.unknown word) => .failure files [s!"Unknown argument: {word}"]
  | .ok options =>
    match options.input, options.output with
    | none, _ => .failure files ["Error: --input is required", usage]
    | some _, none => .failure files ["Error: --output is required", usage]
    | some input, some output =>
      match compilerFor files options.settings with
      | .error error => .failure files [s!"Error loading config: {error.message}"]
      | .ok compiler => compile files compiler input output

end ScriptCompiler
end Tool
end Parley
