import Parley.Ron.Reader

/-!
# Values out of RON

A decoder takes a RON value apart, knowing how many containers and parts are around it.  A value of free form may only
be nested as deep as the limit allows there.

Decoders follow `ron` 0.8, and what is said about round trips and saved files rests on that: its reader gives up below 128
levels, of which a list, a record or a map is one and each thing in it another, and an optional value one more, whether or
not a word marks it as present.  Groups of entries and contexts are optional where documents are read and not where they
are written, so that there are two levels more for writing than for reading.  Labels that are no fields are passed over, but
what stands behind them counts; and no field may come twice.
-/

namespace Parley
namespace Ron

/-- A reader of values that are inside so many containers and parts of containers. -/
abbrev Decoder (α : Type) := (depth : Nat) → Ron → Option α

namespace Decoder

/-- Whether a value of free form may stand at some depth. -/
def fits (depth : Nat) (value : Ron) : Bool := depth + value.nesting ≤ nestingLimit

/-- Read a string. -/
def text : Decoder String := fun _ value =>
  match value with
  | .string content => some (String.ofList content)
  | _ => none

/-- Read a whole number that is not negative and written without a sign. -/
def natural : Decoder Nat := fun _ value =>
  match value with
  | .int false number => some number.toNat
  | _ => none

/-- Read an optional value, for which any value may stand. -/
def optional {α : Type} (read : Decoder α) : Decoder (Option α) := fun depth value =>
  match value with
  | .absent => some none
  | .present inner => (read (depth + 1) inner).map some
  | other => (read (depth + 1) other).map some

/-- Read a list of values of one kind. -/
def list {α : Type} (read : Decoder α) : Decoder (List α) := fun depth value =>
  match value with
  | .list items => items.mapM (read (depth + 2))
  | _ => none

/-- A field of a record: its name, and how its value goes into the record. -/
structure Field (α : Type) where
  name : String
  read : (depth : Nat) → Ron → α → Option α

/-- The field that a decoder and an update of the record make. -/
def Field.of {α β : Type} (name : String) (read : Decoder β) (put : β → α → α) : Field α :=
  ⟨name, fun depth value record => (read depth value).map fun found => put found record⟩

/-- Read the fields of a record.  Labels that are no fields are passed over, and no field comes twice. -/
def recordFields {α : Type} (fields : List (Field α)) (depth : Nat) (record : α) :
    (met : List String) → List (List Char × Ron) → Option α
  | _, [] => some record
  | met, (label, value) :: rest =>
    match fields.find? (fun field => field.name.toList == label) with
    | none => if fits depth value then recordFields fields depth record met rest else none
    | some field =>
      if met.contains field.name then none
      else do recordFields fields depth (← field.read depth value record) (field.name :: met) rest

/-- Whether a record of some type may have this name. -/
def mayBeNamed (typeName : String) (name : Option (List Char)) : Bool :=
  name.all (· == typeName.toList)

/-- Read a record of a type that begins with defaults.  It may leave out the name of its type. -/
def record {α : Type} (typeName : String) (fields : List (Field α)) (defaults : α) : Decoder α :=
  fun depth value =>
    match value with
    | .unit => some defaults
    | .tuple name [] => if mayBeNamed typeName name then some defaults else none
    | .record name found =>
      if mayBeNamed typeName name then recordFields fields (depth + 2) defaults [] found else none
    | _ => none

end Decoder

/-- Read a text that holds one value and nothing else. -/
def decode? {α : Type} (implicit : Bool) (read : Decoder α) (text : String) : Option α := do
  read 0 (← read? implicit text.toList)

end Ron
end Parley
