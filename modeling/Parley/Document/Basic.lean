import Parley.Tree

/-!
# Documents

A document is the written form of a tree: three groups of entries, each in some order.  What is read from a text may
lack groups and fields, and may write identifiers as numbers; a complete document has them all, and gives a tree if its
identifiers are legal and distinct.  Whether references lead anywhere is left to the integrity check.

A complete entry holds the same data as its entity, field by field and under other names.  The entry of a scene has
`scene_id`, `dialogue_id` and `ctx` for its identifier, start and context; that of a dialogue has `dialogue_id`, `text`,
`actions` and `ctx` for its identifier, text, actions and context; that of an action has `action_id`, `dialogue_id`,
`next_id`, `ctx` and `text` for its identifier, owner, next, context and text.  Entities are therefore their own entries
here, and going from one to the other copies every field as it is.
-/

namespace Parley

/-- The entries of a document, in the order in which they are written.  An entry holds the same data as its entity, so the
entries are scenes, dialogues and actions themselves. -/
structure Document where
  scenes : List Scene := []
  dialogues : List Dialogue := []
  actions : List Action := []
  deriving Inhabited

namespace Document

/-! ## Names and faults -/

/-- The name of a group of entries. -/
def groupName : Kind → String
  | .scene => "scenes"
  | .dialogue => "dialogues"
  | .action => "actions"

/-- The fields of entries. -/
inductive Field where
  | sceneId
  | dialogueId
  | actionId
  | nextId
  | text
  | actions
  | context
  deriving DecidableEq, Inhabited

/-- The name of a field. -/
def Field.name : Field → String
  | .sceneId => "scene_id"
  | .dialogueId => "dialogue_id"
  | .actionId => "action_id"
  | .nextId => "next_id"
  | .text => "text"
  | .actions => "actions"
  | .context => "ctx"

/-- How a fault names the entry that it is in. -/
inductive EntryName where
  /-- The place of an entry without an identifier in its group. -/
  | place (index : Nat)
  /-- The identifier of the entry. -/
  | id (id : String)
  deriving DecidableEq, Inhabited

/-- The words for an entry.  An identifier is quoted unless it looks like a place. -/
def EntryName.label : EntryName → String
  | .place index => s!"#{index}"
  | .id entry => if entry.startsWith "#" then entry else s!"'{entry}'"

/-- Why a field has an invalid value. -/
inductive InvalidReason where
  | illegalIdentifier
  | emptyNext
  | illegalNext
  deriving DecidableEq, Inhabited

/-- The words for a reason. -/
def InvalidReason.label : InvalidReason → String
  | .illegalIdentifier => "not a legal identifier"
  | .emptyNext => "empty"
  | .illegalNext => "neither a dialogue identifier nor the terminal sentinel"

/-- Why a document gives no tree. -/
inductive Defect where
  | missingGroup (group : Kind)
  | missingField (group : Kind) (entry : EntryName) (field : Field)
  | invalidField (group : Kind) (entry : EntryName) (field : Field) (value : String) (reason : InvalidReason)
  /-- Two entries of a group have one identifier. -/
  | duplicateEntry (group : Kind) (id : String)
  deriving DecidableEq, Inhabited

/-- The words for a defect. -/
def Defect.message : Defect → String
  | .missingGroup group => s!"document has no '{groupName group}' group"
  | .missingField group entry field =>
    s!"{groupName group} entry {entry.label}: missing field '{field.name}'"
  | .invalidField group entry field value reason =>
    s!"{groupName group} entry {entry.label}: field '{field.name}' has invalid value '{value}': {reason.label}"
  | .duplicateEntry group id => s!"{groupName group}: identifier '{id}' appears more than once"

/-! ## Documents and trees -/

/-- The document of a tree, with the entries of every group in the order of their keys.  An entry holds the same data as
the entity under its key, copied field by field. -/
def ofTree (tree : Tree) : Document := ⟨tree.scenes.values, tree.dialogues.values, tree.actions.values⟩

/-- Refuse an identifier that is not legal. -/
def requireLegal (group : Kind) (entry : String) (field : Field) (value : String) : Except Defect Unit :=
  if Identifier.isLegal value then .ok ()
  else .error (.invalidField group (.id entry) field value .illegalIdentifier)

/-- Add an entry whose identifier is free to a tree. -/
def addDistinct (tree : Tree) (entity : Entity) : Except Defect Tree :=
  (tree.insert entity).mapError fun duplicate => .duplicateEntry duplicate.kind duplicate.id

/-- Add the entry of a scene to a tree. -/
def addScene (tree : Tree) (scene : Scene) : Except Defect Tree := do
  requireLegal .scene scene.id .sceneId scene.id
  requireLegal .scene scene.id .dialogueId scene.start
  addDistinct tree (.scene scene)

/-- Add the entry of a dialogue to a tree. -/
def addDialogue (tree : Tree) (dialogue : Dialogue) : Except Defect Tree := do
  requireLegal .dialogue dialogue.id .dialogueId dialogue.id
  dialogue.actions.forM (requireLegal .dialogue dialogue.id .actions)
  addDistinct tree (.dialogue dialogue)

/-- Add the entry of an action to a tree. -/
def addAction (tree : Tree) (action : Action) : Except Defect Tree := do
  requireLegal .action action.id .actionId action.id
  requireLegal .action action.id .dialogueId action.owner
  addDistinct tree (.action action)

/-- The tree of a document whose identifiers are legal and distinct, or the first defect.  An entity holds the same data as
its entry, copied field by field, and is kept under its identifier. -/
def toTree (document : Document) : Except Defect Tree := do
  let tree ← document.scenes.foldlM addScene Tree.empty
  let tree ← document.dialogues.foldlM addDialogue tree
  document.actions.foldlM addAction tree

end Document

/-! ## Documents as they are read -/

/-- An identifier in a document, which may be a number. -/
inductive WrittenId where
  | text (text : String)
  | number (number : Nat)
  deriving DecidableEq, Inhabited

/-- The text of an identifier; a number is written in decimal digits. -/
def WrittenId.id : WrittenId → String
  | .text written => written
  | .number n => toString n

/-- The entry of a scene, which may lack fields. -/
structure PartialScene where
  id : Option WrittenId := none
  start : Option WrittenId := none
  context : Option Context := none
  deriving Inhabited

/-- The entry of a dialogue, which may lack fields. -/
structure PartialDialogue where
  id : Option WrittenId := none
  text : Option String := none
  actions : Option (List WrittenId) := none
  context : Option Context := none
  deriving Inhabited

/-- The entry of an action, which may lack fields. -/
structure PartialAction where
  id : Option WrittenId := none
  owner : Option WrittenId := none
  next : Option WrittenId := none
  text : Option String := none
  context : Option Context := none
  deriving Inhabited

/-- A document that may lack groups, and whose entries may lack fields. -/
structure PartialDocument where
  scenes : Option (List PartialScene) := none
  dialogues : Option (List PartialDialogue) := none
  actions : Option (List PartialAction) := none
  deriving Inhabited

namespace PartialDocument

open Document (Defect EntryName Field)

/-- A group that has to be there. -/
def requiredGroup {α : Type} (group : Kind) : Option α → Except Defect α
  | some entries => .ok entries
  | none => .error (.missingGroup group)

/-- A field that has to be there. -/
def required {α : Type} (group : Kind) (entry : EntryName) (field : Field) : Option α → Except Defect α
  | some value => .ok value
  | none => .error (.missingField group entry field)

/-- An identifier that has to be there. -/
def requiredId (group : Kind) (entry : EntryName) (field : Field) (written : Option WrittenId) :
    Except Defect String :=
  (required group entry field written).map WrittenId.id

/-- The scene of a complete entry. -/
def completeScene (index : Nat) (entry : PartialScene) : Except Defect Scene := do
  let id ← requiredId .scene (.place index) .sceneId entry.id
  let start ← requiredId .scene (.id id) .dialogueId entry.start
  return { id, start, context := entry.context.getD Context.empty }

/-- The dialogue of a complete entry. -/
def completeDialogue (index : Nat) (entry : PartialDialogue) : Except Defect Dialogue := do
  let id ← requiredId .dialogue (.place index) .dialogueId entry.id
  let text ← required .dialogue (.id id) .text entry.text
  let actions ← required .dialogue (.id id) .actions entry.actions
  return { id, text, actions := actions.map WrittenId.id, context := entry.context.getD Context.empty }

/-- What a text says to follow an action. -/
def requireNext (action text : String) : Except Defect Next :=
  match Next.parse? text with
  | some next => .ok next
  | none =>
    .error (.invalidField .action (.id action) .nextId text (if text.isEmpty then .emptyNext else .illegalNext))

/-- The action of a complete entry. -/
def completeAction (index : Nat) (entry : PartialAction) : Except Defect Action := do
  let id ← requiredId .action (.place index) .actionId entry.id
  let owner ← requiredId .action (.id id) .dialogueId entry.owner
  let next ← requireNext id (← requiredId .action (.id id) .nextId entry.next)
  return { id, owner, next, text := entry.text, context := entry.context.getD Context.empty }

/-- The complete entries of a group, counted from a number on. -/
def completeFrom {α β : Type} (complete : Nat → α → Except Defect β) (index : Nat) :
    List α → Except Defect (List β)
  | [] => .ok []
  | entry :: rest => do return (← complete index entry) :: (← completeFrom complete (index + 1) rest)

/-- The document, if no group and no field is missing, or the first defect. -/
def complete (document : PartialDocument) : Except Defect Document := do
  let scenes ← requiredGroup .scene document.scenes
  let dialogues ← requiredGroup .dialogue document.dialogues
  let actions ← requiredGroup .action document.actions
  return {
    scenes := ← completeFrom completeScene 0 scenes
    dialogues := ← completeFrom completeDialogue 0 dialogues
    actions := ← completeFrom completeAction 0 actions }

end PartialDocument
end Parley
