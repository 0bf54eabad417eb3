import Parley.Compiler

/-!
# What a tool leaves behind

A tool is given words and files.  It leaves an exit code, what it wrote to its two outputs, and the files.
-/

namespace Parley
namespace Tool

/-- What a tool leaves behind. -/
structure Outcome where
  /-- The exit code. -/
  code : Nat
  /-- The lines on the standard output. -/
  output : String := ""
  /-- The lines on the error output. -/
  errors : String := ""
  files : Files
  deriving Inhabited

/-- The text of lines. -/
def lines (texts : List String) : String := String.join (texts.map (· ++ "\n"))

/-- A tool that fails with lines on the error output. -/
def Outcome.failure (files : Files) (texts : List String) : Outcome :=
  { code := 1, errors := lines texts, files }

/-- An outcome behind other lines on the standard output. -/
def Outcome.after (told : List String) (outcome : Outcome) : Outcome :=
  { outcome with output := lines told ++ outcome.output }

/-- A tool that only tells how it is used. -/
def Outcome.help (files : Files) (usage : String) : Outcome := { code := 0, output := lines [usage], files }

/-- Whether a word asks for help. -/
def asksForHelp (word : String) : Bool := word == "--help" || word == "-h"

/-- The compiler that a tool works with: one with defaults, or with the settings in a file. -/
def compilerFor (files : Files) (settings : Option String) : Except CompileError Compiler :=
  Compiler.make files settings none {}

end Tool
end Parley
