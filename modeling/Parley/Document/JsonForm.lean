import Parley.Document.Basic
import Parley.Json.Decode

/-!
# Documents in JSON

A document is an object of three groups, and every entry is an object of its fields.  Reading also takes arrays for
objects, the fields being in their order.
-/

namespace Parley

/-! ## Writing -/

mutual

/-- The JSON of a developer value.  A number that is not finite becomes `null`. -/
def Value.toJson : Value → Json
  | .null => .null
  | .bool value => .bool value
  | .int value => .number (.ofInt value.toInt)
  | .float value => if value.isNaN || value.isInfinite then .null else .number (.ofBinary64 value)
  | .string value => .ofString value
  | .list items => .array (Value.itemsToJson items)
  | .map fields => .object (Value.fieldsToJson fields)

/-- The JSON of developer values in a row. -/
def Value.itemsToJson : List Value → List Json
  | [] => []
  | item :: rest => item.toJson :: Value.itemsToJson rest

/-- The JSON of developer values under keys. -/
def Value.fieldsToJson : List (String × Value) → List (List Char × Json)
  | [] => []
  | (name, value) :: rest => Json.member name value.toJson :: Value.fieldsToJson rest

end

/-- The JSON of a context. -/
def Context.toJson (context : Context) : Json := .object (Value.fieldsToJson context.fields)

/-- The JSON of what follows an action. -/
def Next.toJson (next : Next) : Json := .ofString next.text

namespace Document

/-- The member of an entry for one of its fields. -/
def jsonMember (field : Field) (value : Json) : List Char × Json := Json.member field.name value

/-- The JSON of the entry of a scene. -/
def sceneJson (scene : Scene) : Json :=
  .object [jsonMember .sceneId (.ofString scene.id), jsonMember .dialogueId (.ofString scene.start),
    jsonMember .context scene.context.toJson]

/-- The JSON of the entry of a dialogue. -/
def dialogueJson (dialogue : Dialogue) : Json :=
  .object [jsonMember .dialogueId (.ofString dialogue.id), jsonMember .text (.ofString dialogue.text),
    jsonMember .actions (.array (dialogue.actions.map .ofString)), jsonMember .context dialogue.context.toJson]

/-- The JSON of the entry of an action.  A text that is not there is left out. -/
def actionJson (action : Action) : Json :=
  .object ([jsonMember .actionId (.ofString action.id), jsonMember .dialogueId (.ofString action.owner),
    jsonMember .nextId action.next.toJson, jsonMember .context action.context.toJson] ++
      action.text.toList.map (fun text => jsonMember .text (.ofString text)))

/-- The JSON of a document. -/
def toJson (document : Document) : Json :=
  .object [Json.member (groupName .scene) (.array (document.scenes.map sceneJson)),
    Json.member (groupName .dialogue) (.array (document.dialogues.map dialogueJson)),
    Json.member (groupName .action) (.array (document.actions.map actionJson))]

end Document

/-! ## Reading -/

/-- Read an identifier: a string or a whole number. -/
def WrittenId.ofJson : Json.Decoder WrittenId := fun room outline =>
  match outline with
  | .string (some written) => .ok (.text (String.ofList written))
  | .number numeral =>
    match numeral.value? with
    | some (.natural n) => .ok (.number n)
    | some _ => .error .mismatch
    | none => .error .malformed
  | other => do
    discard (Json.anyValue room other)
    .error .mismatch

namespace PartialDocument

open Json.Decoder

/-- The entry of a scene. -/
def sceneOfJson : Json.Decoder PartialScene :=
  record [
    .of (Document.Field.name .sceneId) (optional WrittenId.ofJson) fun id entry => { entry with id },
    .of (Document.Field.name .dialogueId) (optional WrittenId.ofJson) fun start entry => { entry with start },
    .of (Document.Field.name .context) (optional context) fun context entry => { entry with context }] {}

/-- The entry of a dialogue. -/
def dialogueOfJson : Json.Decoder PartialDialogue :=
  record [
    .of (Document.Field.name .dialogueId) (optional WrittenId.ofJson) fun id entry => { entry with id },
    .of (Document.Field.name .text) (optional text) fun text entry => { entry with text },
    .of (Document.Field.name .actions) (optional (list WrittenId.ofJson)) fun actions entry => { entry with actions },
    .of (Document.Field.name .context) (optional context) fun context entry => { entry with context }] {}

/-- The entry of an action. -/
def actionOfJson : Json.Decoder PartialAction :=
  record [
    .of (Document.Field.name .actionId) (optional WrittenId.ofJson) fun id entry => { entry with id },
    .of (Document.Field.name .dialogueId) (optional WrittenId.ofJson) fun owner entry => { entry with owner },
    .of (Document.Field.name .nextId) (optional WrittenId.ofJson) fun next entry => { entry with next },
    .of (Document.Field.name .text) (optional text) fun text entry => { entry with text },
    .of (Document.Field.name .context) (optional context) fun context entry => { entry with context }] {}

/-- A document that may lack groups and fields. -/
def ofJson : Json.Decoder PartialDocument :=
  record [
    .of (Document.groupName .scene) (optional (list sceneOfJson)) fun scenes document =>
      { document with scenes },
    .of (Document.groupName .dialogue) (optional (list dialogueOfJson)) fun dialogues document =>
      { document with dialogues },
    .of (Document.groupName .action) (optional (list actionOfJson)) fun actions document =>
      { document with actions }] {}

end PartialDocument

/-- Read a text that says what follows an action. -/
def Next.ofJson : Json.Decoder Next := fun room outline => do
  match Next.parse? (← Json.Decoder.text room outline) with
  | some next => .ok next
  | none => .error .mismatch

end Parley
