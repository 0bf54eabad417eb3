import Parley.Integrity.Check
import Parley.Json.Decode

/-!
# The rules of the check in JSON

The rules are an object of two fields, each of which may be left out.  A policy is the text of its name, or an object
whose only member has that name and no value.
-/

namespace Parley
namespace Integrity

namespace OrphanPolicy

/-- The name of a policy. -/
def name : OrphanPolicy → String
  | .error => "Error"
  | .warn => "Warn"

/-- The policy with a name. -/
def ofName? (text : List Char) : Option OrphanPolicy :=
  [OrphanPolicy.error, .warn].find? (fun policy => policy.name.toList == text)

/-- Read the name of a policy. -/
def ofJsonName (text : List Char) : Except Json.Fault OrphanPolicy :=
  match ofName? text with
  | some policy => .ok policy
  | none => .error .mismatch

/-- Read the object that names a policy. -/
def ofJsonMembers (stop : Option Json.Break) :
    List (Option (List Char) × Json.Outline) → Except Json.Fault OrphanPolicy
  | [] => .error ((stop.map Json.Break.needed).getD .malformed)
  | (none, _) :: _ => .error .malformed
  | (some text, value) :: rest => do
    let policy ← ofJsonName text
    match value with
    | .null => if rest.isEmpty then Json.unlessBroken stop policy else .error .malformed
    | other => .error (Json.unwanted other)

/-- Read a policy. -/
def ofJson : Json.Decoder OrphanPolicy := fun room outline =>
  match outline with
  | .string (some text) => ofJsonName text
  | .object found stop => Json.within room fun _ => ofJsonMembers stop found
  | .broken stop => .error stop.needed
  | _ => .error .malformed

end OrphanPolicy

namespace Rules

open Json.Decoder

/-- Read rules. -/
def ofJson : Json.Decoder Rules :=
  record [
    .of "orphan_policy" OrphanPolicy.ofJson fun orphanPolicy rules => { rules with orphanPolicy },
    .of "shared_dialogues" (list text) fun shared rules =>
      { rules with sharedDialogues := KeySet.ofList shared }] {}

/-- The JSON of rules. -/
def toJson (rules : Rules) : Json :=
  .object [Json.member "orphan_policy" (.ofString rules.orphanPolicy.name),
    Json.member "shared_dialogues" (.array (rules.sharedDialogues.keys.map .ofString))]

end Rules
end Integrity
end Parley
