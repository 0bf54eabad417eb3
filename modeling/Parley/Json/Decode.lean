import Parley.Json.Outline
import Parley.Value

/-!
# Values out of outlines

A decoder goes through an outline from left to right and stops at the first fault, be it in the text or in the kind of a
value.  It may open only so many containers inside one another; parts that it passes over do not count.

Decoders follow `serde_json` 1 with its default features, and what is said about round trips and saved files rests on that.
Up to 127 arrays and objects may be open at a time, and one more makes the text malformed.  Numbers have the values of
`Numeral.value?`, where what is no whole number is rounded twice, and a number out of range makes the text malformed.  A
record is read from an object, or from an array of its fields in order; members that are no fields are passed over, and a
field that comes twice is a mismatch.  Only blanks may follow the value, which is found out after the value has been read.
-/

namespace Parley
namespace Json

/-- A reader of outlines, which has room to open so many containers. -/
abbrev Decoder (α : Type) := (room : Nat) → Outline → Except Fault α

/-- The containers that may be open at a time: `serde_json` gives up at the 128th. -/
def nestingLimit : Nat := 127

/-- The fault of an outline that is not of the wanted kind. -/
def unwanted : Outline → Fault
  | .broken stop => stop.needed
  | .number numeral => if numeral.value?.isNone then .malformed else .mismatch
  | .string none => .malformed
  | _ => .mismatch

/-- What was read, unless the container breaks off. -/
def unlessBroken {α : Type} (stop : Option Break) (found : α) : Except Fault α :=
  match stop with
  | none => .ok found
  | some stop => .error stop.needed

/-- Go into a container. -/
def within {α : Type} (room : Nat) (read : (room : Nat) → Except Fault α) : Except Fault α :=
  match room with
  | 0 => .error .malformed
  | room + 1 => read room

/-! ## Passing over -/

mutual

/-- The fault in a value that is passed over, if there is one. -/
def passedFault? : Outline → Option Fault
  | .array found stop => (itemsFault? found).or (stop.map Break.passed)
  | .object found stop => (membersFault? found).or (stop.map Break.passed)
  | .broken stop => some stop.passed
  | _ => none

/-- The fault in items that are passed over, if there is one. -/
def itemsFault? : List Outline → Option Fault
  | [] => none
  | item :: rest => (passedFault? item).or (itemsFault? rest)

/-- The fault in members that are passed over, if there is one. -/
def membersFault? : List (Option (List Char) × Outline) → Option Fault
  | [] => none
  | (_, value) :: rest => (passedFault? value).or (membersFault? rest)

end

/-! ## Values of any kind -/

/-- The developer value of a number: a whole number if it has 64 bits. -/
def ofNumber : Numeral.Number → Value
  | .natural n => if n < Nat.pow 2 63 then .int (Int64.ofNat n) else .float (.ofSign false (Binary64.roundNat n))
  | .negative i => .int (Int64.ofInt i)
  | .real x => .float x

mutual

/-- Read a developer value. -/
def anyValue (room : Nat) : Outline → Except Fault Value
  | .null => .ok .null
  | .bool value => .ok (.bool value)
  | .number numeral =>
    match numeral.value? with
    | some n => .ok (ofNumber n)
    | none => .error .malformed
  | .string (some text) => .ok (.string (String.ofList text))
  | .string none => .error .malformed
  | .array found stop =>
    within room fun room => do unlessBroken stop (.list (← anyItems room found))
  | .object found stop =>
    within room fun room => do unlessBroken stop (.map (← anyFields room found))
  | .broken stop => .error stop.needed

/-- Read developer values in a row. -/
def anyItems (room : Nat) : List Outline → Except Fault (List Value)
  | [] => .ok []
  | item :: rest => do return (← anyValue room item) :: (← anyItems room rest)

/-- Read developer values under keys. -/
def anyFields (room : Nat) : List (Option (List Char) × Outline) → Except Fault (List (String × Value))
  | [] => .ok []
  | (none, _) :: _ => .error .malformed
  | (some name, value) :: rest => do
    return (String.ofList name, ← anyValue room value) :: (← anyFields room rest)

end

namespace Decoder

/-- Read a context, which is an object. -/
def context : Decoder Context := fun room outline =>
  match outline with
  | .object found stop =>
    within room fun room => do unlessBroken stop (Context.ofFields (← anyFields room found))
  | other => .error (unwanted other)

/-! ## Values of one kind -/

/-- Read a string. -/
def text : Decoder String := fun _ outline =>
  match outline with
  | .string (some text) => .ok (String.ofList text)
  | other => .error (unwanted other)

/-- Read a value that may be `null`. -/
def optional {α : Type} (read : Decoder α) : Decoder (Option α) := fun room outline =>
  match outline with
  | .null => .ok none
  | other => (read room other).map some

/-- Read an array of values of one kind. -/
def list {α : Type} (read : Decoder α) : Decoder (List α) := fun room outline =>
  match outline with
  | .array found stop => within room fun room => do unlessBroken stop (← found.mapM (read room))
  | other => .error (unwanted other)

/-! ## Records -/

/-- A field of a record: its name, and how its value goes into the record. -/
structure Field (α : Type) where
  name : String
  read : (room : Nat) → Outline → α → Except Fault α

/-- The field that a decoder and an update of the record make. -/
def Field.of {α β : Type} (name : String) (read : Decoder β) (put : β → α → α) : Field α :=
  ⟨name, fun room outline record => (read room outline).map fun value => put value record⟩

/-- Read the members of an object into a record.  Members that are no fields are passed over, and no field comes
twice. -/
def recordMembers {α : Type} (fields : List (Field α)) (room : Nat) (record : α) :
    (met : List String) → List (Option (List Char) × Outline) → Except Fault α
  | _, [] => .ok record
  | _, (none, _) :: _ => .error .malformed
  | met, (some name, value) :: rest =>
    match fields.find? (fun field => field.name.toList == name) with
    | none =>
      match passedFault? value with
      | some fault => .error fault
      | none => recordMembers fields room record met rest
    | some field =>
      if met.contains field.name then .error .mismatch
      else do recordMembers fields room (← field.read room value record) (field.name :: met) rest

/-- Read the items of an array into a record, in the order of its fields.  There may be fewer items than fields. -/
def recordItems {α : Type} (room : Nat) (record : α) : List (Field α) → List Outline → Except Fault α
  | _, [] => .ok record
  | [], _ :: _ => .error .malformed
  | field :: fields, value :: rest => do recordItems room (← field.read room value record) fields rest

/-- Read an object or an array into a record that begins with defaults. -/
def record {α : Type} (fields : List (Field α)) (defaults : α) : Decoder α := fun room outline =>
  match outline with
  | .object found stop => within room fun room => do unlessBroken stop (← recordMembers fields room defaults [] found)
  | .array found stop => within room fun room => do unlessBroken stop (← recordItems room defaults fields found)
  | other => .error (unwanted other)

end Decoder

/-! ## Whole texts -/

/-- Read a text that holds one value and nothing else. -/
def decode {α : Type} (read : Decoder α) (text : String) : Except Fault α := do
  let (found, followed) := outline text.toList
  let value ← read nestingLimit found
  if followed then throw .malformed else return value

end Json
end Parley
