import Parley.Document.Basic
import Parley.Ron.Decode

/-!
# Documents in RON

A document is a record of three groups, and every entry is a record of its fields.  The developer values in contexts are
lists and maps with texts for keys.
-/

namespace Parley

/-! ## Writing -/

mutual

/-- The RON of a developer value. -/
def Value.toRon : Value → Ron
  | .null => .unit
  | .bool value => .bool value
  | .int value => .ofInt value.toInt
  | .float value => .float value
  | .string value => .ofString value
  | .list items => .list (Value.itemsToRon items)
  | .map fields => .map (Value.fieldsToRon fields)

/-- The RON of developer values in a row. -/
def Value.itemsToRon : List Value → List Ron
  | [] => []
  | item :: rest => item.toRon :: Value.itemsToRon rest

/-- The RON of developer values under keys. -/
def Value.fieldsToRon : List (String × Value) → List (Ron × Ron)
  | [] => []
  | (name, value) :: rest => (Ron.ofString name, value.toRon) :: Value.fieldsToRon rest

end

/-- The RON of a context. -/
def Context.toRon (context : Context) : Ron := .map (Value.fieldsToRon context.fields)

namespace Document

/-- The part of an entry for one of its fields. -/
def ronField (field : Field) (value : Ron) : List Char × Ron := (field.name.toList, value)

/-- The RON of the entry of a scene. -/
def sceneRon (scene : Scene) : Ron :=
  .record none [ronField .sceneId (.ofString scene.id), ronField .dialogueId (.ofString scene.start),
    ronField .context scene.context.toRon]

/-- The RON of the entry of a dialogue. -/
def dialogueRon (dialogue : Dialogue) : Ron :=
  .record none [ronField .dialogueId (.ofString dialogue.id), ronField .text (.ofString dialogue.text),
    ronField .actions (.list (dialogue.actions.map .ofString)), ronField .context dialogue.context.toRon]

/-- The RON of the entry of an action.  A text that is not there is left out. -/
def actionRon (action : Action) : Ron :=
  .record none ([ronField .actionId (.ofString action.id), ronField .dialogueId (.ofString action.owner),
    ronField .nextId (.ofString action.next.text), ronField .context action.context.toRon] ++
      action.text.toList.map (fun text => ronField .text (.present (.ofString text))))

/-- The RON of a document. -/
def toRon (document : Document) : Ron :=
  .record none [((groupName .scene).toList, .list (document.scenes.map sceneRon)),
    ((groupName .dialogue).toList, .list (document.dialogues.map dialogueRon)),
    ((groupName .action).toList, .list (document.actions.map actionRon))]

end Document

/-! ## Reading -/

/-- The developer value of a whole number: a floating-point number if it has more than 64 bits with its sign. -/
def Value.ofRonInt (number : Int) : Value :=
  if number.toNat < Nat.pow 2 63 then .int (Int64.ofInt number)
  else .float (.ofSign false (Binary64.roundNat number.toNat))

mutual

/-- The developer value of a RON value.  Names and absent values are no values; optional values and characters have
none. -/
def Value.ofRon? : Ron → Option Value
  | .unit => some .null
  | .absent => some .null
  | .bare _ => some .null
  | .bool value => some (.bool value)
  | .int _ number => some (Value.ofRonInt number)
  | .float value => some (.float value)
  | .string text => some (.string (String.ofList text))
  | .list items => (Value.itemsOfRon? items).map .list
  | .tuple _ items => (Value.itemsOfRon? items).map .list
  | .record _ fields => (Value.fieldsOfRon? fields).map .map
  | .map entries => (Value.entriesOfRon? entries).map .map
  | .char _ => none
  | .present _ => none

/-- The developer values of RON values in a row. -/
def Value.itemsOfRon? : List Ron → Option (List Value)
  | [] => some []
  | item :: rest => do return (← Value.ofRon? item) :: (← Value.itemsOfRon? rest)

/-- The developer values of the fields of a record. -/
def Value.fieldsOfRon? : List (List Char × Ron) → Option (List (String × Value))
  | [] => some []
  | (label, value) :: rest => do
    return (String.ofList label, ← Value.ofRon? value) :: (← Value.fieldsOfRon? rest)

/-- The developer values of the entries of a map, whose keys have to be texts. -/
def Value.entriesOfRon? : List (Ron × Ron) → Option (List (String × Value))
  | [] => some []
  | (.string key, value) :: rest => do
    return (String.ofList key, ← Value.ofRon? value) :: (← Value.entriesOfRon? rest)
  | _ :: _ => none

end

/-- Read a context, which is a map. -/
def Context.ofRon : Ron.Decoder Context := fun depth value =>
  match value with
  | .map entries =>
    if Ron.Decoder.fits depth value then (Value.entriesOfRon? entries).map Context.ofFields else none
  | _ => none

/-- Read an identifier: a text or a whole number that is not negative. -/
def WrittenId.ofRon : Ron.Decoder WrittenId := fun _ value =>
  match value with
  | .string content => some (.text (String.ofList content))
  | .int _ n => if 0 ≤ n then some (.number n.toNat) else none
  | _ => none

namespace PartialDocument

open Ron.Decoder

/-- The entry of a scene. -/
def sceneOfRon : Ron.Decoder PartialScene :=
  record "RawScene" [
    .of (Document.Field.name .sceneId) (optional WrittenId.ofRon) fun id entry => { entry with id },
    .of (Document.Field.name .dialogueId) (optional WrittenId.ofRon) fun start entry => { entry with start },
    .of (Document.Field.name .context) (optional Context.ofRon) fun context entry => { entry with context }] {}

/-- The entry of a dialogue. -/
def dialogueOfRon : Ron.Decoder PartialDialogue :=
  record "RawDialogue" [
    .of (Document.Field.name .dialogueId) (optional WrittenId.ofRon) fun id entry => { entry with id },
    .of (Document.Field.name .text) (optional text) fun text entry => { entry with text },
    .of (Document.Field.name .actions) (optional (list WrittenId.ofRon)) fun actions entry =>
      { entry with actions },
    .of (Document.Field.name .context) (optional Context.ofRon) fun context entry => { entry with context }] {}

/-- The entry of an action. -/
def actionOfRon : Ron.Decoder PartialAction :=
  record "RawAction" [
    .of (Document.Field.name .actionId) (optional WrittenId.ofRon) fun id entry => { entry with id },
    .of (Document.Field.name .dialogueId) (optional WrittenId.ofRon) fun owner entry => { entry with owner },
    .of (Document.Field.name .nextId) (optional WrittenId.ofRon) fun next entry => { entry with next },
    .of (Document.Field.name .text) (optional text) fun text entry => { entry with text },
    .of (Document.Field.name .context) (optional Context.ofRon) fun context entry => { entry with context }] {}

/-- A document that may lack groups and fields. -/
def ofRon : Ron.Decoder PartialDocument :=
  record "RawDocument" [
    .of (Document.groupName .scene) (optional (list sceneOfRon)) fun scenes document =>
      { document with scenes },
    .of (Document.groupName .dialogue) (optional (list dialogueOfRon)) fun dialogues document =>
      { document with dialogues },
    .of (Document.groupName .action) (optional (list actionOfRon)) fun actions document =>
      { document with actions }] {}

end PartialDocument
end Parley
