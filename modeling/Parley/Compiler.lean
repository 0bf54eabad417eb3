import Parley.Document.Format
import Parley.Script.Lexer
import Parley.Script.Parser
import Parley.Settings

/-!
# The compiler

A compiler turns a script or a document into a certified tree.  Each stage works on what the one before it gave, and the
first fault of any of them is the answer.
-/

namespace Parley

open Integrity (Rules ValidTree ValidationError)
open Script (LexError ParseError tokenize parse)

/-- Why something cannot be compiled. -/
inductive CompileError where
  | lex (error : LexError)
  | parse (error : ParseError)
  | build (error : BuildError)
  | validation (error : ValidationError)
  | decode (error : DecodeError)
  | file (error : FileError)
  /-- A text is no settings. -/
  | settings
  deriving DecidableEq, Inhabited

/-- The words for why something cannot be compiled. -/
def CompileError.message : CompileError → String
  | .lex error => s!"lex error: {error.message}"
  | .parse error => s!"parse error: {error.message}"
  | .build error => s!"build error: {error.message}"
  | .validation error => s!"validation failed: {error.message}"
  | .decode error => s!"decode error: {error.message}"
  | .file error => s!"IO error: {error.message}"
  | .settings => "RON error: the text is not a configuration"

/-- How scripts are built and trees are checked. -/
structure Compiler where
  /-- Identifiers of the library's own have at least so many places. -/
  idWidth : Nat := defaultIdWidth
  rules : Rules := {}
  deriving Inhabited

namespace Compiler

/-! ## Making a compiler -/

/-- The compiler with the given settings. -/
def ofSettings (settings : Settings) : Compiler := ⟨max settings.idWidth 1, settings.rules⟩

/-- The settings that a text holds. -/
def settingsOf (text : String) : Except CompileError Settings :=
  match Settings.parse? text with
  | some settings => .ok settings
  | none => .error .settings

/-- The settings that a file holds. -/
def settingsIn (files : Files) (path : String) : Except CompileError Settings := do
  settingsOf (← (files.read path).mapError .file)

/-- The compiler with the settings of a file if one is named, else with those that are given, else with defaults; the
overrides go before all of them. -/
def make (files : Files) (path : Option String) (given : Option Settings) (overrides : Overrides) :
    Except CompileError Compiler := do
  let settings ← match path with
    | some path => settingsIn files path
    | none => .ok (given.getD {})
  return ofSettings (settings.override overrides)

/-! ## Compiling -/

/-- The tree that a script describes, without a check of its integrity. -/
def buildScript (compiler : Compiler) (script : String) : Except CompileError Tree := do
  let tokens ← (tokenize script).mapError .lex
  let statements ← (parse tokens).mapError .parse
  let draft ← ((Draft.empty.withIdWidth compiler.idWidth).applyAll statements).mapError .build
  return draft.finish

/-- The tree that a document describes, without a check of its integrity. -/
def readDocument (format : Format) (text : String) : Except CompileError Tree :=
  (Tree.decode format text).mapError .decode

/-- Certify a tree. -/
def validate (compiler : Compiler) (tree : Tree) : Except ValidationError ValidTree :=
  Integrity.validate compiler.rules tree

/-- The certified tree of a script. -/
def compileScript (compiler : Compiler) (script : String) : Except CompileError ValidTree := do
  (compiler.validate (← compiler.buildScript script)).mapError .validation

/-- The certified tree of a document. -/
def compileDocument (compiler : Compiler) (format : Format) (text : String) : Except CompileError ValidTree := do
  (compiler.validate (← readDocument format text)).mapError .validation

end Compiler
end Parley
