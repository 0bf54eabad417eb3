import Parley.Draft

/-!
# Drafts that are changed in place

Statements are carried out on a draft step by step, and every step changes the draft for good.  A refusal therefore comes
with the draft as it is at that moment, and nothing is taken back.
-/

namespace Parley
namespace Draft

open Script (Statement)

/-- What changes a draft in place and may be refused on the way. -/
abbrev Edit := EStateM BuildError Draft

namespace Edit

/-- Store another tree in the draft. -/
def store (tree : Tree) : Edit Unit := modify fun draft => { draft with tree }

/-- Add an entity whose identifier is free. -/
def insert (index : Nat) (entity : Entity) : Edit Unit := do
  let draft ← get
  if draft.tree.contains entity.kind entity.id then throw (.duplicateId index entity.kind entity.id)
  store (draft.tree.put entity)

/-- Exchange the entity under an identifier for another, and give back the old one.  Nothing is stored where there is
none. -/
def replace (entity : Entity) : Edit (Option Entity) := do
  let draft ← get
  let old := draft.tree.get? entity.kind entity.id
  if old.isSome then store (draft.tree.put entity)
  return old

/-- Take away what a kind has under an identifier, and give it back. -/
def remove (kind : Kind) (id : String) : Edit (Option Entity) := do
  let draft ← get
  let old := draft.tree.get? kind id
  store (draft.tree.erase kind id)
  return old

/-- Add the entity that a statement describes, with an empty context. -/
def create (statement : Statement) : Edit Unit := do
  let draft ← get
  let entity ← MonadExcept.ofExcept (entityOf statement (draft.createdId statement) Context.empty)
  insert statement.index entity

/-- Exchange an entity for the one that a statement describes.  The new one is given the context of the old one first. -/
def update (statement : Statement) : Edit Unit := do
  let id ← MonadExcept.ofExcept (requiredId statement)
  let described ← MonadExcept.ofExcept (entityOf statement id Context.empty)
  let draft ← get
  let entity := match draft.tree.get? statement.kind id with
    | some old => described.withContext old.context
    | none => described
  if (← replace entity).isNone then throw (absent statement id)

/-- Take out the entity that a statement names. -/
def delete (statement : Statement) : Edit Unit := do
  let id ← MonadExcept.ofExcept (requiredId statement)
  if (← remove statement.kind id).isNone then throw (absent statement id)

/-- Do what a statement says. -/
def apply (statement : Statement) : Edit Unit :=
  match statement.verb with
  | .create => create statement
  | .update => update statement
  | .delete => delete statement

/-- Do what statements say, up to the first one that is refused. -/
def applyAll (statements : List Statement) : Edit Unit := statements.forM apply

end Edit
end Draft
end Parley
