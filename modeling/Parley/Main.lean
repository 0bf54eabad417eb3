import Parley.Tool.Linter
import Parley.Tool.ScenePlayer
import Parley.Tool.ScriptCompiler

/-!
# The command line

The first word names a tool, and the others are for the tool.  The files and directories that they name are taken in,
the tool is run on them, and the files that it changes are written.  The scene player is run line by line.
-/

namespace Parley
namespace CommandLine

/-- How the command line is used. -/
def usage : String := "Usage: parley <dialogue_linter|script_compiler|scene_player> <arguments>"

/-- The path of the directory around a path. -/
def parent (path : String) : String :=
  let names := Path.names path
  let above := String.intercalate "/" names.dropLast
  if path.startsWith "/" then "/" ++ above else if above.isEmpty then "." else above

/-- Whether there is a directory at a path. -/
def isDirectory (path : String) : IO Bool := do
  try
    let _ ← (← IO.FS.realPath path).readDir
    return true
  catch _ => return false

/-- Take in the file at a path, if there is one. -/
def takeFile (files : Files) (path : String) : IO Files := do
  try return files.withFile path (← IO.FS.readBinFile path)
  catch _ => return files

/-- Take in a directory with all that is below it, or a file with one of the extensions that the linter looks for. -/
partial def takeBelow (files : Files) (path : String) : IO Files := do
  if ← isDirectory path then
    let entries ← (← IO.FS.realPath path).readDir
    entries.foldlM (fun files entry => takeBelow files (Path.join path entry.fileName)) (files.withDirectory path)
  else if (Path.extension? path).any Tool.Linter.checkedExtensions.contains then takeFile files path
  else return files

/-- Take in what a word names, and the directory around it. -/
def takeWord (files : Files) (word : String) : IO Files := do
  let files := if ← isDirectory (parent word) then files.withDirectory (parent word) else files
  if ← isDirectory word then takeBelow files word else takeFile files word

/-- Write the files among the given paths that have changed. -/
def writeChanges (old new : Files) (paths : List String) : IO Unit :=
  paths.forM fun path =>
    match new.bytes? path with
    | none => return
    | some bytes =>
      if (old.bytes? path).map ByteArray.data = some bytes.data then return
      else IO.FS.writeBinFile path bytes

/-- Show what a tool leaves behind. -/
def finish (old : Files) (words : List String) (outcome : Tool.Outcome) : IO UInt32 := do
  writeChanges old outcome.files words
  (← IO.getStdout).putStr outcome.output
  (← IO.getStderr).putStr outcome.errors
  return UInt32.ofNat outcome.code

/-- The next line of the standard input; none at its end, or if it is no text. -/
def nextLine : IO (Option String) := do
  try
    let line ← (← IO.getStdin).getLine
    return if line.isEmpty then none else some line
  catch _ => return none

/-- Play on until the game or the input is over. -/
partial def playOn (game : Tool.ScenePlayer.Game) : IO Unit := do
  let output ← IO.getStdout
  output.putStr Tool.ScenePlayer.prompt
  output.flush
  match ← nextLine with
  | none => return
  | some line =>
    let (told, next) := game.line line
    output.putStr (Tool.lines told)
    match next with
    | some game => playOn game
    | none => return

/-- Run the scene player. -/
def playScene (files : Files) (words : List String) : IO UInt32 := do
  match Tool.ScenePlayer.start files words with
  | .error outcome => finish files words outcome
  | .ok game =>
    (← IO.getStdout).putStr game.opening
    playOn game
    return 0

/-- Run a tool. -/
def runTool (tool : String) (words : List String) : IO UInt32 := do
  let files ← words.foldlM takeWord {}
  match tool with
  | "dialogue_linter" => finish files words (Tool.Linter.run files words)
  | "script_compiler" => finish files words (Tool.ScriptCompiler.run files words)
  | "scene_player" => playScene files words
  | _ => finish files [] (.failure files [usage])

end CommandLine
end Parley

/-- Run the tool that the first word names on the other words. -/
def main : List String → IO UInt32
  | tool :: words => Parley.CommandLine.runTool tool words
  | [] => Parley.CommandLine.runTool "" []
