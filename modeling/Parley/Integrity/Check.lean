import Parley.Integrity.Finding
import Parley.Integrity.Reachability

/-!
# The integrity check

All tests run to the end and everything is reported.  A tree without errors is certified: its identifiers are legal,
its references lead somewhere, its lists of actions agree with the owners of actions, and, if the policy asks for it,
every dialogue can be reached.
-/

namespace Parley
namespace Integrity

/-- Whether a dialogue that cannot be reached is an error. -/
inductive OrphanPolicy where
  | error
  | warn
  deriving DecidableEq, Inhabited

/-- The severity of a dialogue that cannot be reached. -/
def OrphanPolicy.severity : OrphanPolicy → Severity
  | .error => .error
  | .warn => .warning

/-- What the check takes for granted. -/
structure Rules where
  orphanPolicy : OrphanPolicy := .error
  /-- Dialogues that conversations may start at without a scene. -/
  sharedDialogues : KeySet := Table.empty
  deriving DecidableEq, Inhabited

/-! ## Identifiers -/

/-- The finding that an identifier is illegal, if it is. -/
def illegal? (entity : Kind) (key : String) (slot : Slot) (value : String) : List Finding :=
  if Identifier.isLegal value then [] else [⟨entity, key, .illegalIdentifier slot value, .error⟩]

/-- The illegal identifiers of a tree. -/
def illegalIdentifiers (tree : Tree) : List Finding :=
  tree.scenes.entries.flatMap (fun (key, scene) =>
    illegal? .scene key .id key ++ illegal? .scene key .dialogue scene.start) ++
  tree.dialogues.entries.flatMap (fun (key, dialogue) =>
    illegal? .dialogue key .id key ++ dialogue.actions.flatMap (illegal? .dialogue key .action)) ++
  tree.actions.entries.flatMap (fun (key, action) =>
    illegal? .action key .id key ++ illegal? .action key .dialogue action.owner ++
      action.next.dialogue?.toList.flatMap (illegal? .action key .next))

/-- The finding that an entity stands under a key that is not its identifier, if it does. -/
def drifted? (entity : Kind) (key storedId : String) : List Finding :=
  if key == storedId then [] else [⟨entity, key, .driftedKey storedId, .error⟩]

/-- The keys of a tree that disagree with the identifier of the entity under them. -/
def driftedKeys (tree : Tree) : List Finding :=
  tree.scenes.entries.flatMap (fun (key, scene) => drifted? .scene key scene.id) ++
  tree.dialogues.entries.flatMap (fun (key, dialogue) => drifted? .dialogue key dialogue.id) ++
  tree.actions.entries.flatMap (fun (key, action) => drifted? .action key action.id)

/-! ## References -/

/-- What is wrong with the owner of an action. -/
def ownerFindings (tree : Tree) (action : Action) : List Finding :=
  match tree.dialogues.get? action.owner with
  | none => [⟨.action, action.id, .missingOwner action.owner, .error⟩]
  | some owner =>
    if owner.offers action.id then [] else [⟨.action, action.id, .unlisted action.owner, .error⟩]

/-- What is wrong with what follows an action. -/
def nextFindings (tree : Tree) (action : Action) : List Finding :=
  match action.next with
  | .finish => []
  | .dialogue next =>
    if tree.dialogues.contains next then [] else [⟨.action, action.id, .missingNext next, .error⟩]

/-- What is wrong with the start of a scene. -/
def startFindings (tree : Tree) (scene : Scene) : List Finding :=
  if tree.dialogues.contains scene.start then []
  else [⟨.scene, scene.id, .missingStart scene.start, .error⟩]

/-- What is wrong with an action that a dialogue lists. -/
def listedFindings (tree : Tree) (dialogue : Dialogue) (action : String) : List Finding :=
  match tree.actions.get? action with
  | none => [⟨.dialogue, dialogue.id, .missingAction action, .error⟩]
  | some stored =>
    if stored.owner == dialogue.id then []
    else [⟨.dialogue, dialogue.id, .foreignAction action stored.owner, .error⟩]

/-- What is wrong with the references of a tree. -/
def referenceFindings (tree : Tree) : List Finding :=
  tree.actions.values.flatMap (fun action => ownerFindings tree action ++ nextFindings tree action) ++
  tree.scenes.values.flatMap (startFindings tree) ++
  tree.dialogues.values.flatMap (fun dialogue => dialogue.actions.flatMap (listedFindings tree dialogue))

/-! ## Reachability -/

/-- Where conversations start: at the starts of scenes and at shared dialogues that exist. -/
def roots (rules : Rules) (tree : Tree) : List String :=
  tree.scenes.values.map Scene.start ++ rules.sharedDialogues.keys.filter tree.dialogues.contains

/-- The dialogues that a conversation can come to. -/
def reachedDialogues (rules : Rules) (tree : Tree) : List String := tree.graph.reachable (roots rules tree)

/-- Those of the reached dialogues that a conversation can come back to. -/
def loopingDialogues (tree : Tree) (reached : List String) : List String := (tree.graph.restrict reached).looping

/-- The dialogues that no conversation can come to. -/
def orphanFindings (rules : Rules) (tree : Tree) (reached : List String) : List Finding :=
  (tree.dialogues.keys.filter (fun key => !reached.contains key)).map fun key =>
    ⟨.dialogue, key, .orphan, rules.orphanPolicy.severity⟩

/-- What is to be known about a dialogue that can be reached. -/
def standingFindings (key : String) (dialogue : Dialogue) : Reachability → List Finding
  | .unreachable => []
  | standing =>
    (if dialogue.actions.isEmpty then [⟨.dialogue, key, .deadEnd, .warning⟩] else []) ++
      (if standing = .cyclic then [⟨.dialogue, key, .loop, .info⟩] else [])

/-! ## The whole check -/

/-- Everything that the check found. -/
structure Diagnostics where
  errors : List Finding
  warnings : List Finding
  notes : List Finding
  /-- The standing of every dialogue. -/
  reachability : Table Reachability
  deriving DecidableEq, Inhabited

/-- Whether there are no errors. -/
def Diagnostics.isOk (diagnostics : Diagnostics) : Bool := diagnostics.errors.isEmpty

/-- Everything that is found about a tree, in order. -/
def findings (rules : Rules) (tree : Tree) (reached looping : List String) : List Finding :=
  illegalIdentifiers tree ++ driftedKeys tree ++ referenceFindings tree ++ orphanFindings rules tree reached ++
    tree.dialogues.entries.flatMap (fun (key, dialogue) =>
      standingFindings key dialogue (classify reached looping key))

/-- Check a tree. -/
def check (rules : Rules) (tree : Tree) : Diagnostics :=
  let reached := reachedDialogues rules tree
  let looping := loopingDialogues tree reached
  let found := findings rules tree reached looping
  { errors := found.filter (·.severity = .error)
    warnings := found.filter (·.severity = .warning)
    notes := found.filter (·.severity = .info)
    reachability := tree.dialogues.mapEntries (fun key _ => classify reached looping key) }

/-- A tree that passed the check, and what the check found. -/
structure ValidTree where
  tree : Tree
  diagnostics : Diagnostics
  /-- The findings are those of a check, and no error is among them. -/
  certified : ∃ rules, check rules tree = diagnostics ∧ diagnostics.isOk = true

/-- Certify a tree, or tell what keeps it from being certified. -/
def validate (rules : Rules) (tree : Tree) : Except ValidationError ValidTree :=
  if ok : (check rules tree).isOk = true then .ok ⟨tree, check rules tree, rules, rfl, ok⟩
  else .error ⟨(check rules tree).errors⟩

/-- The standing of a dialogue of a certified tree. -/
def ValidTree.reachability? (valid : ValidTree) (dialogue : String) : Option Reachability :=
  valid.diagnostics.reachability.get? dialogue

/-- Whether two certified trees hold the same entities and the same findings. -/
def ValidTree.same (left right : ValidTree) : Bool :=
  left.tree.same right.tree && left.diagnostics == right.diagnostics

end Integrity
end Parley
