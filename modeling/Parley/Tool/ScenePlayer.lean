import Parley.Conversation
import Parley.Text.Blank
import Parley.Text.Lowercase
import Parley.Tool.Outcome
import Parley.Workspace

/-!
# The scene player

The scene player plays one scene of a tree.  It reads a line at a time, which takes a choice by its number or gives one
of a few commands, and shows where the conversation is.
-/

namespace Parley
namespace Tool
namespace ScenePlayer

open Integrity (ValidTree)

/-- How the scene player is used. -/
def usage : String :=
  "Usage: scene_player <tree.dlg|tree.json|tree.ron> [--scene <id>] [--config <compiler.ron>]"

/-- What the scene player is asked to do with its tree. -/
structure Options where
  scene : Option String := none
  settings : Option String := none
  deriving Inhabited

/-- Read the words behind the path, up to the first unknown one. -/
def options (found : Options) : List String → Except String Options
  | [] => .ok found
  | [word] => .error word
  | word :: value :: rest =>
    if word == "--scene" then options { found with scene := some value } rest
    else if word == "--config" then options { found with settings := some value } rest
    else .error word

/-! ## Playing -/

/-- A scene that is being played. -/
structure Game where
  valid : ValidTree
  conversation : Conversation
  /-- What the choices so far led to. -/
  history : List Step := []

/-- The commands that are told on request. -/
def helpLines : List String :=
  ["Commands:",
    "  <n>        take the n-th offered choice",
    "  restart    back to the scene's starting dialogue",
    "  history    list the dialogues visited so far",
    "  scenes     list the scenes in the tree",
    "  help       this list",
    "  quit       exit"]

/-- Lines with their numbers, counted from one. -/
def numbered (texts : List String) : List String :=
  texts.zipIdx.map fun (text, index) => s!"  {index + 1}. {text}"

/-- The lines that show where a conversation is. -/
def viewLines : View → List String
  | .speaking text labels =>
    ["", text, ""] ++
      (if labels.isEmpty then ["(no choices; type 'restart' or 'quit')"] else []) ++
      numbered (labels.map (·.getD "(continue)"))
  | .finished => ["", "--- End of scene ---", ""]

/-- The lines that show where a game is. -/
def Game.viewLines (game : Game) : List String := ScenePlayer.viewLines (game.conversation.view game.valid)

/-- The words for what a choice led to. -/
def stepText : Step → String
  | .moved dialogue => dialogue
  | .finished => "end"

/-- What a line asks for. -/
inductive Command where
  | quit
  | help
  | restart
  | history
  | scenes
  /-- A choice, counted from zero. -/
  | choice (index : Nat)
  | unknown (text : String)
  deriving DecidableEq, Inhabited

/-- Numbers on a line lie below this bound. -/
def numberBound : Nat := Nat.pow 2 64

/-- The number that a text of decimal digits stands for, with or without a plus sign. -/
def number? (text : List Char) : Option Nat :=
  let digits := if text.head? == some '+' then text.tail else text
  if digits.isEmpty || !digits.all Char.isDigit then none
  else
    let value := Nat.ofDigitChars 10 digits 0
    if value < numberBound then some value else none

/-- What a text in lower case asks for. -/
def Command.ofText (text : String) : Command :=
  if ["quit", "exit", "q"].contains text then .quit
  else if ["help", "h", "?"].contains text then .help
  else if text == "restart" then .restart
  else if text == "history" then .history
  else if text == "scenes" then .scenes
  else
    match number? text.toList with
    | some (index + 1) => .choice index
    | _ => .unknown text

/-- A line without the blanks around it. -/
def trim (line : String) : String :=
  String.ofList ((line.toList.dropWhile Text.isBlank).reverse.dropWhile Text.isBlank).reverse

/-- Do what a line asks for: the lines to show, and the game unless it is over. -/
def Game.command (game : Game) : Command → List String × Option Game
  | .quit => (["Goodbye."], none)
  | .help => (helpLines, some game)
  | .restart =>
    let game := { game with conversation := game.conversation.restart game.valid, history := [] }
    (game.viewLines, some game)
  | .history =>
    ((if game.history.isEmpty then ["(nothing yet)"] else []) ++ numbered (game.history.map stepText), some game)
  | .scenes => (game.valid.tree.scenes.keys.map ("  " ++ ·), some game)
  | .choice index =>
    match game.conversation.attempt game.valid (.nth index) with
    | (.ok step, conversation) =>
      let game := { game with conversation, history := game.history ++ [step] }
      (game.viewLines, some game)
    | (.error error, conversation) => ([error.message], some { game with conversation })
  | .unknown text => ([s!"Unknown command: {text}. Type 'help'."], some game)

/-- Take in a line: the lines to show, and the game unless it is over. -/
def Game.line (game : Game) (line : String) : List String × Option Game :=
  let text := trim line
  if text.isEmpty then ([], some game) else game.command (.ofText (Text.lowercase text))

/-! ## Starting -/

/-- Read the file of a tree. -/
def load (compiler : Compiler) (files : Files) (path : String) : Except WorkspaceError Workspace :=
  let workspace : Workspace := { compiler }
  if (Format.ofPath? path).isSome then workspace.loadDocument files path else workspace.loadScript files path

/-- Enter a scene: the one that is asked for, or the first one. -/
def enter (valid : ValidTree) (scene : Option String) : Except String Game :=
  match scene.or valid.tree.scenes.keys.head? with
  | none => .error "the tree has no scenes"
  | some scene =>
    match Conversation.start valid scene with
    | .ok conversation => .ok { valid, conversation }
    | .error error => .error error.message

/-- Start a game as the words say, or tell why there is none. -/
def start (files : Files) : List String → Except Outcome Game
  | [] => .error (.help files usage)
  | path :: words => do
    if asksForHelp path then throw (.help files usage)
    let options ← (options {} words).mapError fun word =>
      (Outcome.failure files [s!"Unknown argument: {word}"]).after [usage]
    let compiler ← (compilerFor files options.settings).mapError fun error =>
      .failure files [s!"Error loading config: {error.message}"]
    let workspace ← (load compiler files path).mapError fun error =>
      .failure files [s!"Error: {error.message}"]
    match workspace.current with
    | none => throw (.failure files [s!"Error: nothing was loaded from '{path}'"])
    | some valid => (enter valid options.scene).mapError fun message => .failure files [s!"Error: {message}"]

/-- What is shown when a game starts. -/
def Game.opening (game : Game) : String :=
  lines ([s!"Scene: {game.conversation.scene}", "Type 'help' for commands.", ""] ++ game.viewLines)

/-- What is shown in front of every line that is read. -/
def prompt : String := "> "

/-- What is shown while lines are read to their end, to the end of the game, or to one that is no text. -/
def Game.play (game : Game) : List (Option String) → String
  | [] => prompt
  | none :: _ => prompt
  | some line :: rest =>
    match game.line line with
    | (told, none) => prompt ++ lines told
    | (told, some next) => prompt ++ lines told ++ next.play rest

/-- The lines of bytes, each with its line feed. -/
def byteLines : List UInt8 → List (List UInt8)
  | [] => []
  | byte :: rest =>
    if byte = 10 then [byte] :: byteLines rest
    else
      match byteLines rest with
      | [] => [[byte]]
      | line :: others => (byte :: line) :: others

/-- The lines of an input, as far as they are texts. -/
def inputLines (input : ByteArray) : List (Option String) :=
  (byteLines input.toList).map fun line => String.fromUTF8? ⟨line.toArray⟩

/-- Run the scene player on a whole input. -/
def run (files : Files) (words : List String) (input : ByteArray) : Outcome :=
  match start files words with
  | .error outcome => outcome
  | .ok game => { code := 0, output := game.opening ++ game.play (inputLines input), files }

end ScenePlayer
end Tool
end Parley
