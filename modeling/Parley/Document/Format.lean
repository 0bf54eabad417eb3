import Parley.Document.JsonForm
import Parley.Document.RonForm
import Parley.Files

/-!
# Documents as texts

A document is kept as a text in one of two formats, which the name of its file tells apart.  Reading goes through three
stages: the text, the fields of the entries, and the identifiers.
-/

namespace Parley

/-- The formats of documents. -/
inductive Format where
  | json
  | ron
  deriving DecidableEq, Inhabited

/-- Why a text gives no document or no tree. -/
inductive DecodeError where
  | json (fault : Json.Fault)
  | ron
  | defect (defect : Document.Defect)
  deriving DecidableEq, Inhabited

/-- The words for a text that gives no document or no tree. -/
def DecodeError.message : DecodeError → String
  | .json fault => s!"JSON error: {fault.message}"
  | .ron => "RON error: the text is not a document"
  | .defect found => found.message

/-- Why a document cannot be written: RON allows only so much nesting. -/
inductive EncodeError where
  | ron
  deriving DecidableEq, Inhabited

/-- The words for a document that cannot be written. -/
def EncodeError.message : EncodeError → String
  | .ron => "RON error: the values are nested too deep"

namespace Format

/-- The format of a file, told by its extension. -/
def ofPath? (path : String) : Option Format :=
  match Path.extension? path with
  | some "json" => some .json
  | some "ron" => some .ron
  | _ => none

end Format

namespace Document

/-- Read a text into a document that may lack groups and fields. -/
def parsePartial (format : Format) (text : String) : Except DecodeError PartialDocument :=
  match format with
  | .json => (Json.decode PartialDocument.ofJson text).mapError .json
  | .ron =>
    match Ron.decode? true PartialDocument.ofRon text with
    | some document => .ok document
    | none => .error .ron

/-- Read a text into a document. -/
def parse (format : Format) (text : String) : Except DecodeError Document := do
  (← parsePartial format text).complete.mapError .defect

/-- The text of a document. -/
def render (format : Format) (document : Document) : Except EncodeError String :=
  match format with
  | .json => .ok document.toJson.pretty
  | .ron => if document.toRon.nesting ≤ Ron.nestingLimit then .ok document.toRon.pretty else .error .ron

end Document

namespace Tree

/-- Read a text into a tree. -/
def decode (format : Format) (text : String) : Except DecodeError Tree := do
  (← Document.parse format text).toTree.mapError .defect

/-- The text of a tree. -/
def encode (format : Format) (tree : Tree) : Except EncodeError String :=
  (Document.ofTree tree).render format

end Tree
end Parley
