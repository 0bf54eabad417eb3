import Parley.Entity

/-!
# Dialogue trees

A tree is three tables of entities, one for each kind.  Entities refer to one another by identifier, so a tree may hold
references that lead nowhere; such faults are found by the integrity check and not by the tree.
-/

namespace Parley

/-- An identifier of this kind is taken. -/
structure DuplicateId where
  /-- The kind of both entities. -/
  kind : Kind
  /-- The identifier of both entities. -/
  id : String
  deriving DecidableEq

/-- The words for a taken identifier. -/
def DuplicateId.message (duplicate : DuplicateId) : String :=
  s!"{duplicate.kind.keyword} '{duplicate.id}' already exists"

/-- A dialogue graph: its scenes, dialogues and actions by identifier. -/
structure Tree where
  scenes : Table Scene := Table.empty
  dialogues : Table Dialogue := Table.empty
  actions : Table Action := Table.empty
  deriving Inhabited

namespace Tree

/-- The tree without entities. -/
def empty : Tree := {}

/-! ## One entity -/

/-- The entity of a kind under an identifier. -/
def get? (tree : Tree) : Kind → String → Option Entity
  | .scene, id => (tree.scenes.get? id).map .scene
  | .dialogue, id => (tree.dialogues.get? id).map .dialogue
  | .action, id => (tree.actions.get? id).map .action

/-- Whether a kind has an entity under an identifier. -/
def contains (tree : Tree) (kind : Kind) (id : String) : Bool := (tree.get? kind id).isSome

/-- Put an entity under a key of the table of its kind, in place of one that is there. -/
def putAt (tree : Tree) (key : String) : Entity → Tree
  | .scene scene => { tree with scenes := tree.scenes.insert key scene }
  | .dialogue dialogue => { tree with dialogues := tree.dialogues.insert key dialogue }
  | .action action => { tree with actions := tree.actions.insert key action }

/-- Put an entity under its own identifier, in place of one that is there. -/
def put (tree : Tree) (entity : Entity) : Tree := tree.putAt entity.id entity

/-- Add an entity whose identifier is free. -/
def insert (tree : Tree) (entity : Entity) : Except DuplicateId Tree :=
  if tree.contains entity.kind entity.id then .error ⟨entity.kind, entity.id⟩
  else .ok (tree.put entity)

/-- Exchange the entity under an identifier for another, and give back the old one.  Nothing is stored where there is
none. -/
def replace? (tree : Tree) (entity : Entity) : Option (Entity × Tree) :=
  (tree.get? entity.kind entity.id).map fun old => (old, tree.put entity)

/-- The tree without the entity of a kind under an identifier. -/
def erase (tree : Tree) : Kind → String → Tree
  | .scene, id => { tree with scenes := tree.scenes.erase id }
  | .dialogue, id => { tree with dialogues := tree.dialogues.erase id }
  | .action, id => { tree with actions := tree.actions.erase id }

/-- Take an entity out of the tree, and give it back. -/
def remove? (tree : Tree) (kind : Kind) (id : String) : Option (Entity × Tree) :=
  (tree.get? kind id).map fun old => (old, tree.erase kind id)

/-! ## All entities -/

/-- The identifiers of a kind, in order. -/
def ids (tree : Tree) : Kind → List String
  | .scene => tree.scenes.keys
  | .dialogue => tree.dialogues.keys
  | .action => tree.actions.keys

/-- The number of entities. -/
def size (tree : Tree) : Nat := tree.scenes.size + tree.dialogues.size + tree.actions.size

/-- Whether there is no entity. -/
def isEmpty (tree : Tree) : Bool := tree.scenes.isEmpty && tree.dialogues.isEmpty && tree.actions.isEmpty

/-- The identifiers of a kind that some entity points at, as often as it does. -/
def references (tree : Tree) : Kind → List String
  | .scene => []
  | .dialogue =>
    tree.scenes.values.map Scene.start ++
      tree.actions.values.flatMap (fun action => action.owner :: action.next.dialogue?.toList)
  | .action => tree.dialogues.values.flatMap Dialogue.actions

/-- The identifiers of a kind that some entity points at, in order and each once. -/
def referencedIds (tree : Tree) (kind : Kind) : List String := (KeySet.ofList (tree.references kind)).keys

/-- Whether two tables hold the same entities under the same keys. -/
def sameTable {α : Type} (sameEntity : α → α → Bool) (left right : Table α) : Bool :=
  left.keys == right.keys && (left.values.zip right.values).all (fun (x, y) => sameEntity x y)

/-- Whether two trees hold the same entities, contexts being compared as values. -/
def same (left right : Tree) : Bool :=
  sameTable Scene.same left.scenes right.scenes &&
    sameTable Dialogue.same left.dialogues right.dialogues &&
    sameTable Action.same left.actions right.actions

end Tree
end Parley
