import Parley.Entity

/-!
# Findings about a tree

A finding says what is wrong, or worth knowing, about one entity of a tree.  Errors keep a tree from being played,
warnings and notes do not.
-/

namespace Parley
namespace Integrity

/-- How much a finding weighs. -/
inductive Severity where
  | error
  | warning
  | info
  deriving DecidableEq, Inhabited

/-- The groups of findings. -/
inductive Category where
  | invalidIdentifier
  | danglingReference
  | orphanDialogue
  | ownershipMismatch
  | unlistedAction
  | deadEnd
  | cyclicPath
  deriving DecidableEq, Inhabited

/-- The words for a group of findings. -/
def Category.label : Category → String
  | .invalidIdentifier => "invalid identifier"
  | .danglingReference => "dangling reference"
  | .orphanDialogue => "orphan dialogue"
  | .ownershipMismatch => "ownership mismatch"
  | .unlistedAction => "unlisted action"
  | .deadEnd => "dead end"
  | .cyclicPath => "cyclic path"

/-- A place of an entity where an identifier stands. -/
inductive Slot where
  /-- The identifier of the entity itself. -/
  | id
  /-- The start of a scene, or the owner of an action. -/
  | dialogue
  /-- An action in the list of a dialogue. -/
  | action
  /-- What follows an action. -/
  | next
  deriving DecidableEq, Inhabited

/-- The name of a place where an identifier stands. -/
def Slot.label : Slot → String
  | .id => "id"
  | .dialogue => "dialogue_id"
  | .action => "action"
  | .next => "next_id"

/-- What is found about an entity. -/
inductive Matter where
  /-- An identifier that cannot be written in a script. -/
  | illegalIdentifier (slot : Slot) (value : String)
  /-- The entity under a key has another identifier. -/
  | driftedKey (storedId : String)
  /-- The owner of an action does not exist. -/
  | missingOwner (owner : String)
  /-- What should follow an action does not exist. -/
  | missingNext (next : String)
  /-- What a scene should start with does not exist. -/
  | missingStart (start : String)
  /-- An action in the list of a dialogue does not exist. -/
  | missingAction (action : String)
  /-- The owner of an action does not list it, so it is never offered. -/
  | unlisted (owner : String)
  /-- A dialogue lists an action of another dialogue. -/
  | foreignAction (action owner : String)
  /-- No scene leads to the dialogue. -/
  | orphan
  /-- The dialogue can be reached and offers nothing. -/
  | deadEnd
  /-- The conversation can come back to the dialogue. -/
  | loop
  deriving DecidableEq, Inhabited

namespace Matter

/-- The group that a matter belongs to. -/
def category : Matter → Category
  | .illegalIdentifier _ _ => .invalidIdentifier
  | .driftedKey _ => .invalidIdentifier
  | .missingOwner _ => .danglingReference
  | .missingNext _ => .danglingReference
  | .missingStart _ => .danglingReference
  | .missingAction _ => .danglingReference
  | .unlisted _ => .unlistedAction
  | .foreignAction _ _ => .ownershipMismatch
  | .orphan => .orphanDialogue
  | .deadEnd => .deadEnd
  | .loop => .cyclicPath

/-- The words for a matter. -/
def detail : Matter → String
  | .illegalIdentifier slot value => s!"{slot.label} '{value}' is not a legal identifier"
  | .driftedKey storedId => s!"stored entity has id '{storedId}'"
  | .missingOwner owner => s!"dialogue_id '{owner}' does not exist"
  | .missingNext next => s!"next_id '{next}' does not exist"
  | .missingStart start => s!"starting dialogue_id '{start}' does not exist"
  | .missingAction action => s!"action '{action}' does not exist"
  | .unlisted owner => s!"dialogue '{owner}' does not list it"
  | .foreignAction action owner => s!"lists action '{action}' which belongs to dialogue '{owner}'"
  | .orphan => "not reachable from any scene's starting dialogue"
  | .deadEnd => "reachable but offers no actions"
  | .loop => "part of a conversation loop"

end Matter

/-- One finding about one entity. -/
structure Finding where
  /-- The kind of the entity. -/
  entity : Kind
  /-- Its identifier, or the key that it stands under. -/
  id : String
  matter : Matter
  severity : Severity
  deriving DecidableEq, Inhabited

/-- The words for a finding. -/
def Finding.message (finding : Finding) : String :=
  s!"{finding.matter.category.label} {finding.entity.keyword} '{finding.id}': {finding.matter.detail}"

/-- The findings that keep a tree from being played. -/
structure ValidationError where
  violations : List Finding
  deriving DecidableEq, Inhabited

/-- The words for the findings that keep a tree from being played. -/
def ValidationError.message (error : ValidationError) : String :=
  s!"{error.violations.length} integrity violation(s): " ++
    String.intercalate "; " (error.violations.map Finding.message)

end Integrity
end Parley
