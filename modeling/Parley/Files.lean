import Parley.Table

/-!
# Files

A file system is a tree of directories with files in it.  A path is resolved step by step from the root, and every
component but the last has to be a directory.
-/

namespace Parley

/-- Why a file cannot be read or written. -/
inductive FileError where
  | notFound
  /-- The bytes are no text in UTF-8. -/
  | notText
  | isDirectory
  deriving DecidableEq, Inhabited

/-- The words for a failed access. -/
def FileError.message : FileError → String
  | .notFound => "No such file or directory (os error 2)"
  | .notText => "stream did not contain valid UTF-8"
  | .isDirectory => "Is a directory (os error 21)"

namespace Path

/-- The components of a path, with empty ones and those for the current directory. -/
def components (path : String) : List (List Char) := path.toList.splitOn '/'

/-- Whether a component stays in its directory. -/
def isStay (component : List Char) : Bool := component == [] || component == ['.']

/-- Whether a component can be the name of something in a directory. -/
def isName (component : List Char) : Bool :=
  !isStay component && component != ['.', '.'] && !component.contains '/'

/-- The components of a path that lead somewhere else. -/
def moves (path : String) : List (List Char) := (components path).filter (!isStay ·)

/-- The last component of a path that leads somewhere else. -/
def lastName (path : String) : List Char := (moves path).getLast?.getD []

/-- The names of a path. -/
def names (path : String) : List String := (moves path).map String.ofList

/-- What follows the last point of a name, unless the point comes first. -/
def extensionOf? (name : List Char) : Option (List Char) :=
  let behind := (name.reverse.takeWhile (· != '.')).reverse
  if name == ['.', '.'] || name.length ≤ behind.length + 1 then none else some behind

/-- The extension of the last name of a path. -/
def extension? (path : String) : Option String := (extensionOf? (lastName path)).map String.ofList

/-- A path without the slashes at its end. -/
def withoutEndSlash (path : String) : String :=
  String.ofList (path.toList.reverse.dropWhile (· == '/')).reverse

/-- The path of a name in a directory. -/
def join (directory name : String) : String :=
  if directory.endsWith "/" then directory ++ name else directory ++ "/" ++ name

end Path

/-- What a path leads to, as the names of the directories on the way and of the file or directory itself. -/
abbrev Location := List String

/-- The text of a location, under which it is kept. -/
def Location.key (location : Location) : String := String.intercalate "/" location

/-- Files and directories. -/
structure Files where
  /-- The bytes of every file, by the text of its location. -/
  contents : Table ByteArray := Table.empty
  /-- The directories other than the root, by the text of their location. -/
  directories : KeySet := Table.empty
  deriving Inhabited

namespace Files

/-- Whether a location is a directory. -/
def isDirectoryAt (files : Files) (location : Location) : Bool :=
  location.isEmpty || files.directories.contains location.key

/-- The location one component further. -/
def step (files : Files) (location : Location) (component : List Char) : Option Location :=
  if !files.isDirectoryAt location then none
  else if Path.isStay component then some location
  else if component == ['.', '.'] then some location.dropLast
  else some (location ++ [String.ofList component])

/-- What a path leads to, whether there is something or not. -/
def resolve? (files : Files) (path : String) : Option Location :=
  if path.isEmpty then none else (Path.components path).foldlM files.step []

/-- Whether a path leads to a directory. -/
def isDirectory (files : Files) (path : String) : Bool := (files.resolve? path).any files.isDirectoryAt

/-- The bytes of the file that a path leads to. -/
def bytes? (files : Files) (path : String) : Option ByteArray := do
  files.contents.get? (← files.resolve? path).key

/-- Whether a path leads to a file. -/
def isFile (files : Files) (path : String) : Bool := (files.bytes? path).isSome

/-- Read a file as a text. -/
def read (files : Files) (path : String) : Except FileError String :=
  if files.isDirectory path then .error .isDirectory
  else
    match files.bytes? path with
    | none => .error .notFound
    | some bytes =>
      match String.fromUTF8? bytes with
      | some text => .ok text
      | none => .error .notText

/-- Why nothing can be written to a path that leads nowhere.  One with a slash at its end asks for a directory. -/
def writeFault (files : Files) (path : String) : FileError :=
  if (files.resolve? (Path.withoutEndSlash path)).isSome then .isDirectory else .notFound

/-- Write a text to a file, in place of what it holds. -/
def write (files : Files) (path text : String) : Except FileError Files :=
  if files.isDirectory path then .error .isDirectory
  else
    match files.resolve? path with
    | none => .error (files.writeFault path)
    | some location => .ok { files with contents := files.contents.insert location.key text.toUTF8 }

/-! ## Putting files together -/

/-- The directories with a location and all that are around it. -/
def addDirectory (directories : KeySet) (location : Location) : KeySet :=
  ((List.range location.length).map fun depth => Location.key (location.take (depth + 1))).foldl
    (fun set key => set.insert key ()) directories

/-- Add an empty directory, and those around it. -/
def withDirectory (files : Files) (path : String) : Files :=
  { files with directories := addDirectory files.directories (Path.names path) }

/-- Add a file, and the directories around it. -/
def withFile (files : Files) (path : String) (bytes : ByteArray) : Files :=
  { contents := files.contents.insert (Location.key (Path.names path)) bytes
    directories := addDirectory files.directories (Path.names path).dropLast }

/-! ## Listing -/

/-- The names of what is directly in a directory, the directory itself and the one around it not counted. -/
def childNames (files : Files) (location : Location) : List String :=
  let within := if location.isEmpty then [] else (location.key ++ "/").toList
  (files.contents.keys ++ files.directories.keys).filterMap fun key =>
    if within.isPrefixOf key.toList then
      let name := key.toList.drop within.length
      if Path.isName name then some (String.ofList name) else none
    else none

/-- The paths of the files in a directory and in the directories within it, to some depth. -/
def filesWithin (files : Files) : (depth : Nat) → (path : String) → List String
  | 0, _ => []
  | depth + 1, path =>
    match files.resolve? path with
    | none => []
    | some location =>
      (files.childNames location).flatMap fun name =>
        if files.isDirectoryAt (location ++ [name]) then files.filesWithin depth (Path.join path name)
        else [Path.join path name]

/-- The paths of all files below a directory. -/
def filesBelow (files : Files) (path : String) : List String :=
  files.filesWithin (files.directories.size + 1) path

end Files
end Parley
