import Parley.Proofs.Tree.Store

/-!
# Trees without developer data

Taking away all contexts leaves the keys of a tree, its identifiers, its texts and its references as they are.  Two trees
are equal but for their contexts if nothing tells them apart after that.
-/

namespace Parley

/-! ## Entities -/

/-- The scene without developer data. -/
def Scene.bare (scene : Scene) : Scene := { scene with context := Context.empty }

/-- The dialogue without developer data. -/
def Dialogue.bare (dialogue : Dialogue) : Dialogue := { dialogue with context := Context.empty }

/-- The action without developer data. -/
def Action.bare (action : Action) : Action := { action with context := Context.empty }

@[simp] theorem Scene.id_bare (scene : Scene) : scene.bare.id = scene.id := rfl

@[simp] theorem Scene.start_bare (scene : Scene) : scene.bare.start = scene.start := rfl

@[simp] theorem Dialogue.id_bare (dialogue : Dialogue) : dialogue.bare.id = dialogue.id := rfl

@[simp] theorem Dialogue.text_bare (dialogue : Dialogue) : dialogue.bare.text = dialogue.text := rfl

@[simp] theorem Dialogue.actions_bare (dialogue : Dialogue) : dialogue.bare.actions = dialogue.actions := rfl

@[simp] theorem Dialogue.offers_bare (dialogue : Dialogue) : dialogue.bare.offers = dialogue.offers := rfl

@[simp] theorem Action.id_bare (action : Action) : action.bare.id = action.id := rfl

@[simp] theorem Action.owner_bare (action : Action) : action.bare.owner = action.owner := rfl

@[simp] theorem Action.next_bare (action : Action) : action.bare.next = action.next := rfl

@[simp] theorem Action.text_bare (action : Action) : action.bare.text = action.text := rfl

/-- The entity without developer data. -/
def Entity.bare (entity : Entity) : Entity := entity.withContext Context.empty

@[simp] theorem Entity.kind_bare (entity : Entity) : entity.bare.kind = entity.kind := by cases entity <;> rfl

@[simp] theorem Entity.id_bare (entity : Entity) : entity.bare.id = entity.id := by cases entity <;> rfl

@[simp] theorem Entity.context_bare (entity : Entity) : entity.bare.context = Context.empty := by cases entity <;> rfl

/-! ## Tables -/

theorem Table.values_mapEntries
    {α β : Type}
    (change : α → β)
    (table : Table α) :
    (table.mapEntries fun _ => change).values = table.values.map change := by
  simp [values, mapEntries]

/-! ## Trees -/

namespace Tree

variable {tree : Tree} {entity : Entity} {kind : Kind} {key : String}

/-- The tree without developer data. -/
def bare (tree : Tree) : Tree where
  scenes := tree.scenes.mapEntries fun _ => Scene.bare
  dialogues := tree.dialogues.mapEntries fun _ => Dialogue.bare
  actions := tree.actions.mapEntries fun _ => Action.bare

@[simp] theorem scenes_get?_bare
    (tree : Tree)
    (key : String) :
    tree.bare.scenes.get? key = (tree.scenes.get? key).map Scene.bare :=
  Table.get?_mapEntries _ _ _

@[simp] theorem dialogues_get?_bare
    (tree : Tree)
    (key : String) :
    tree.bare.dialogues.get? key = (tree.dialogues.get? key).map Dialogue.bare :=
  Table.get?_mapEntries _ _ _

@[simp] theorem actions_get?_bare
    (tree : Tree)
    (key : String) :
    tree.bare.actions.get? key = (tree.actions.get? key).map Action.bare :=
  Table.get?_mapEntries _ _ _

@[simp] theorem scenes_values_bare (tree : Tree) : tree.bare.scenes.values = tree.scenes.values.map Scene.bare :=
  Table.values_mapEntries _ _

@[simp] theorem dialogues_values_bare
    (tree : Tree) :
    tree.bare.dialogues.values = tree.dialogues.values.map Dialogue.bare :=
  Table.values_mapEntries _ _

@[simp] theorem actions_values_bare (tree : Tree) : tree.bare.actions.values = tree.actions.values.map Action.bare :=
  Table.values_mapEntries _ _

@[simp] theorem dialogues_keys_bare (tree : Tree) : tree.bare.dialogues.keys = tree.dialogues.keys :=
  Table.keys_mapEntries _ _

@[simp] theorem dialogues_contains_bare
    (tree : Tree) :
    tree.bare.dialogues.contains = tree.dialogues.contains := by
  funext key
  simp [Table.contains]

theorem get?_bare
    (tree : Tree)
    (kind : Kind)
    (key : String) :
    tree.bare.get? kind key = (tree.get? kind key).map Entity.bare := by
  cases kind <;> simp only [get?, scenes_get?_bare, dialogues_get?_bare, actions_get?_bare, Option.map_map] <;> rfl

theorem contains_bare
    (tree : Tree)
    (kind : Kind)
    (key : String) :
    tree.bare.contains kind key = tree.contains kind key := by
  rw [contains, get?_bare, Option.isSome_map, contains]

theorem ids_bare
    (tree : Tree)
    (kind : Kind) :
    tree.bare.ids kind = tree.ids kind := by
  cases kind <;> exact Table.keys_mapEntries _ _

theorem references_bare
    (tree : Tree)
    (kind : Kind) :
    tree.bare.references kind = tree.references kind := by
  cases kind with
  | scene => rfl
  | dialogue =>
      simp only [references, scenes_values_bare, actions_values_bare, List.map_map, List.flatMap_map, Action.owner_bare,
        Action.next_bare]
      rfl
  | action =>
      simp only [references, dialogues_values_bare, List.flatMap_map, Dialogue.actions_bare]

@[simp] theorem bare_bare
    (tree : Tree) :
    tree.bare.bare = tree.bare := by
  apply ext_get?
  intro kind key
  rw [get?_bare, get?_bare, Option.map_map]
  congr 1
  funext entity
  cases entity <;> rfl

theorem bare_put
    (tree : Tree)
    (entity : Entity) :
    (tree.put entity).bare = tree.bare.put entity.bare := by
  apply ext_get?
  intro kind key
  rw [get?_bare, get?_put, get?_put, get?_bare, Entity.kind_bare, Entity.id_bare]
  split_ifs <;> rfl

theorem bare_erase
    (tree : Tree)
    (kind : Kind)
    (id : String) :
    (tree.erase kind id).bare = tree.bare.erase kind id := by
  apply ext_get?
  intro other key
  rw [get?_bare, get?_erase, get?_erase, get?_bare]
  split_ifs <;> rfl

end Tree
end Parley
