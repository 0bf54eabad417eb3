import Mathlib
import Parley.Proofs.Document.Entries
import Parley.Proofs.Tree.Bare

/-!
# Other numbers in contexts

A format may give back other floating-point numbers than it was given, or none.  Everything else in developer values, and
the trees around them, stays as it is.
-/

namespace Parley

variable {change other : Binary64 → Option Binary64}

/-! ## Values -/

namespace Value

mutual

/-- The value with other floating-point numbers, and with `null` where there is none any more. -/
def recast (change : Binary64 → Option Binary64) : Value → Value
  | .float number => ((change number).map .float).getD .null
  | .list items => .list (recastItems change items)
  | .map fields => .map (recastFields change fields)
  | value => value

/-- Values in a row with other floating-point numbers. -/
def recastItems (change : Binary64 → Option Binary64) : List Value → List Value
  | [] => []
  | item :: rest => item.recast change :: recastItems change rest

/-- Values under keys with other floating-point numbers. -/
def recastFields (change : Binary64 → Option Binary64) : List (String × Value) → List (String × Value)
  | [] => []
  | (key, value) :: rest => (key, value.recast change) :: recastFields change rest

end

mutual

/-- Every floating-point number in the value has a property. -/
def EveryFloat (p : Binary64 → Prop) : Value → Prop
  | .float number => p number
  | .list items => EveryFloatItems p items
  | .map fields => EveryFloatFields p fields
  | _ => True

/-- Every floating-point number in a row of values has a property. -/
def EveryFloatItems (p : Binary64 → Prop) : List Value → Prop
  | [] => True
  | item :: rest => item.EveryFloat p ∧ EveryFloatItems p rest

/-- Every floating-point number in the values of a map has a property. -/
def EveryFloatFields (p : Binary64 → Prop) : List (String × Value) → Prop
  | [] => True
  | (_, value) :: rest => value.EveryFloat p ∧ EveryFloatFields p rest

end

/-! ### Changing twice -/

/-- What a number becomes by two changes one after the other. -/
def changeTwice (change other : Binary64 → Option Binary64) : Binary64 → Option Binary64 :=
  fun number => (change number).bind other

mutual

theorem recast_recast : (value : Value) → (value.recast change).recast other = value.recast (changeTwice change other)
  | .float number => by
    rw [recast, recast, changeTwice]
    cases change number with
    | none => rfl
    | some changed => rfl
  | .list items => by
    rw [recast, recast, recast, recastItems_recastItems items]
  | .map fields => by
    rw [recast, recast, recast, recastFields_recastFields fields]
  | .null | .bool _ | .int _ | .string _ => rfl

theorem recastItems_recastItems : (items : List Value) →
    recastItems other (recastItems change items) = recastItems (changeTwice change other) items
  | [] => rfl
  | item :: rest => by
    rw [recastItems, recastItems, recastItems, recast_recast item, recastItems_recastItems rest]

theorem recastFields_recastFields : (fields : List (String × Value)) →
    recastFields other (recastFields change fields) = recastFields (changeTwice change other) fields
  | [] => rfl
  | (key, value) :: rest => by
    rw [recastFields, recastFields, recastFields, recast_recast value, recastFields_recastFields rest]

end

/-! ### Changes that do the same -/

theorem map_float_getD_inj
    {left right : Option Binary64} :
    (left.map Value.float).getD .null = (right.map Value.float).getD .null ↔ left = right := by
  cases left <;> cases right <;> simp

mutual

/-- Two changes make the same of a value exactly if they do of every floating-point number in it. -/
theorem recast_eq_recast_iff : (value : Value) →
    (value.recast change = value.recast other ↔ value.EveryFloat fun number => change number = other number)
  | .float number => by
    rw [recast, recast, EveryFloat]
    exact map_float_getD_inj
  | .list items => by
    rw [recast, recast, EveryFloat, list.injEq]
    exact recastItems_eq_recastItems_iff items
  | .map fields => by
    rw [recast, recast, EveryFloat, map.injEq]
    exact recastFields_eq_recastFields_iff fields
  | .null | .bool _ | .int _ | .string _ => iff_of_true rfl trivial

theorem recastItems_eq_recastItems_iff : (items : List Value) →
    (recastItems change items = recastItems other items ↔ EveryFloatItems (fun number => change number = other number) items)
  | [] => iff_of_true rfl trivial
  | item :: rest => by
    rw [recastItems, recastItems, EveryFloatItems, List.cons.injEq, recast_eq_recast_iff item,
      recastItems_eq_recastItems_iff rest]

theorem recastFields_eq_recastFields_iff : (fields : List (String × Value)) →
    (recastFields change fields = recastFields other fields ↔
      EveryFloatFields (fun number => change number = other number) fields)
  | [] => iff_of_true rfl trivial
  | (key, value) :: rest => by
    rw [recastFields, recastFields, EveryFloatFields, List.cons.injEq, Prod.mk.injEq, recast_eq_recast_iff value,
      recastFields_eq_recastFields_iff rest]
    simp

end

mutual

/-- The change that keeps every number keeps every value. -/
theorem recast_some : (value : Value) → value.recast some = value
  | .list items => by rw [recast, recastItems_some items]
  | .map fields => by rw [recast, recastFields_some fields]
  | .null | .bool _ | .int _ | .float _ | .string _ => rfl

theorem recastItems_some : (items : List Value) → recastItems some items = items
  | [] => rfl
  | item :: rest => by rw [recastItems, recast_some item, recastItems_some rest]

theorem recastFields_some : (fields : List (String × Value)) → recastFields some fields = fields
  | [] => rfl
  | (key, value) :: rest => by rw [recastFields, recast_some value, recastFields_some rest]

end

/-! ### Keys -/

theorem keys_recastFields
    (change : Binary64 → Option Binary64)
    (fields : List (String × Value)) :
    (recastFields change fields).map Prod.fst = fields.map Prod.fst := by
  induction fields with
  | nil => rfl
  | cons field rest inductionHypothesis =>
      obtain ⟨key, value⟩ := field
      rw [recastFields, List.map_cons, List.map_cons, inductionHypothesis]

theorem keysIncrease_recastFields
    {fields : List (String × Value)}
    (increasing : KeysIncrease fields) :
    KeysIncrease (recastFields change fields) := by
  have keys : (fields.map Prod.fst).Pairwise (· < ·) := List.pairwise_map.mpr increasing
  rw [← keys_recastFields change] at keys
  exact List.pairwise_map.mp keys

mutual

/-- Maps stay in key order. -/
theorem ordered_recast : (value : Value) → value.Ordered → (value.recast change).Ordered
  | .float number, _ => by
    rw [recast]
    cases change number <;> trivial
  | .list items, ordered => by
    rw [recast]
    exact orderedItems_recastItems items ordered
  | .map fields, ordered => by
    rw [recast]
    exact ⟨keysIncrease_recastFields ordered.1, orderedFields_recastFields fields ordered.2⟩
  | .null, _ | .bool _, _ | .int _, _ | .string _, _ => trivial

theorem orderedItems_recastItems : (items : List Value) → OrderedItems items → OrderedItems (recastItems change items)
  | [], _ => trivial
  | item :: rest, ordered => ⟨ordered_recast item ordered.1, orderedItems_recastItems rest ordered.2⟩

theorem orderedFields_recastFields : (fields : List (String × Value)) → OrderedFields fields →
    OrderedFields (recastFields change fields)
  | [], _ => trivial
  | (_, value) :: rest, ordered => ⟨ordered_recast value ordered.1, orderedFields_recastFields rest ordered.2⟩

end

end Value

/-! ## Contexts -/

namespace Context

/-- The context with other floating-point numbers. -/
def recast (change : Binary64 → Option Binary64) (context : Context) : Context :=
  ⟨Value.recastFields change context.fields, Value.ordered_recast (.map context.fields) context.ordered⟩

/-- Every floating-point number in the context has a property. -/
def EveryFloat (p : Binary64 → Prop) (context : Context) : Prop := Value.EveryFloatFields p context.fields

theorem recast_recast
    (context : Context) :
    (context.recast change).recast other = context.recast (Value.changeTwice change other) :=
  ext (Value.recastFields_recastFields context.fields)

theorem recast_eq_recast_iff
    {context : Context} :
    context.recast change = context.recast other ↔ context.EveryFloat fun number => change number = other number := by
  exact Iff.trans ⟨congrArg Context.fields, ext⟩ (Value.recastFields_eq_recastFields_iff context.fields)

theorem recast_some
    (context : Context) :
    context.recast some = context :=
  ext (Value.recastFields_some context.fields)

end Context

/-! ## Entities, documents and trees -/

/-- The scene with other developer data. -/
def Scene.mapContext (change : Context → Context) (scene : Scene) : Scene :=
  { scene with context := change scene.context }

/-- The dialogue with other developer data. -/
def Dialogue.mapContext (change : Context → Context) (dialogue : Dialogue) : Dialogue :=
  { dialogue with context := change dialogue.context }

/-- The action with other developer data. -/
def Action.mapContext (change : Context → Context) (action : Action) : Action :=
  { action with context := change action.context }

/-- The entity with other developer data. -/
def Entity.mapContext (change : Context → Context) (entity : Entity) : Entity :=
  entity.withContext (change entity.context)

/-- The document with other developer data. -/
def Document.mapContexts (change : Context → Context) (document : Document) : Document where
  scenes := document.scenes.map (Scene.mapContext change)
  dialogues := document.dialogues.map (Dialogue.mapContext change)
  actions := document.actions.map (Action.mapContext change)

theorem Document.entities_mapContexts
    (change : Context → Context)
    (document : Document) :
    (document.mapContexts change).entities = document.entities.map (Entity.mapContext change) := by
  simp only [entities, mapContexts, List.map_append, List.map_map]
  rfl

/-- What follows an action stays what it is. -/
theorem Document.next_legal_mapContexts
    {document : Document}
    (nextLegal : ∀ action ∈ document.actions, ∀ {next}, action.next = .dialogue next → Identifier.isLegal next)
    (change : Context → Context) :
    ∀ action ∈ (document.mapContexts change).actions,
      ∀ {next}, action.next = .dialogue next → Identifier.isLegal next := by
  intro action member next follows
  obtain ⟨written, isWritten, rfl⟩ := List.mem_map.mp member
  exact nextLegal written isWritten follows

theorem Entity.context_mapContext
    (change : Context → Context)
    (entity : Entity) :
    (entity.mapContext change).context = change entity.context := by
  cases entity <;> rfl

theorem Entity.mapContext_eq_mapContext_iff
    {left right : Context → Context}
    {entity : Entity} :
    entity.mapContext left = entity.mapContext right ↔ left entity.context = right entity.context := by
  constructor
  · intro same
    rw [← context_mapContext left, same, context_mapContext]
  · intro same
    rw [mapContext, same, mapContext]

namespace Tree

variable {left right : Context → Context}

/-- The tree with other developer data. -/
def mapContexts (change : Context → Context) (tree : Tree) : Tree where
  scenes := tree.scenes.mapEntries fun _ => Scene.mapContext change
  dialogues := tree.dialogues.mapEntries fun _ => Dialogue.mapContext change
  actions := tree.actions.mapEntries fun _ => Action.mapContext change

theorem ofTree_mapContexts
    (change : Context → Context)
    (tree : Tree) :
    Document.ofTree (tree.mapContexts change) = (Document.ofTree tree).mapContexts change := by
  simp only [Document.ofTree, mapContexts, Table.values_mapEntries]
  rfl

theorem get?_mapContexts
    (change : Context → Context)
    (tree : Tree)
    (kind : Kind)
    (key : String) :
    (tree.mapContexts change).get? kind key = (tree.get? kind key).map (Entity.mapContext change) := by
  cases kind <;> simp only [get?, mapContexts, Table.get?_mapEntries, Option.map_map] <;> rfl

/-- Other developer data are no difference but in developer data. -/
theorem bare_mapContexts
    (change : Context → Context)
    (tree : Tree) :
    (tree.mapContexts change).bare = tree.bare := by
  apply ext_get?
  intro kind key
  rw [get?_bare, get?_mapContexts, Option.map_map, get?_bare]
  congr 1
  funext entity
  cases entity <;> rfl

/-- Two changes make the same of a tree exactly if they do of every context in it. -/
theorem mapContexts_eq_mapContexts_iff
    {tree : Tree} :
    tree.mapContexts left = tree.mapContexts right ↔
      ∀ entity ∈ tree.entities, left entity.context = right entity.context := by
  constructor
  · intro same entity member
    obtain ⟨key, found⟩ := mem_entities_iff.mp member
    have changed := congrArg (fun tree => tree.get? entity.kind key) same
    simp only [get?_mapContexts, found, Option.map_some, Option.some.injEq] at changed
    exact Entity.mapContext_eq_mapContext_iff.mp changed
  · intro same
    apply ext_get?
    intro kind key
    rw [get?_mapContexts, get?_mapContexts]
    cases found : tree.get? kind key with
    | none => rfl
    | some entity =>
        have member : entity ∈ tree.entities := mem_entities_iff.mpr ⟨key, kind_of_get? found ▸ found⟩
        rw [Option.map_some, Option.map_some, Entity.mapContext_eq_mapContext_iff.mpr (same entity member)]

theorem mapContexts_id
    (tree : Tree) :
    tree.mapContexts id = tree := by
  apply ext_get?
  intro kind key
  have same : Entity.mapContext id = id := by
    funext entity
    cases entity <;> rfl
  rw [get?_mapContexts, same, Option.map_id, id]

/-- Other developer data leave the names of a tree in order. -/
theorem Named.mapContexts
    {tree : Tree}
    (named : tree.Named)
    (change : Context → Context) :
    (tree.mapContexts change).Named := by
  have found {kind : Kind} {key : String} {entity : Entity} (changed : (tree.mapContexts change).get? kind key = some entity) :
      ∃ stored, tree.get? kind key = some stored ∧ stored.mapContext change = entity := by
    rwa [get?_mapContexts, Option.map_eq_some_iff] at changed
  constructor
  · intro kind key entity changed
    obtain ⟨stored, held, rfl⟩ := found changed
    rw [← named.id_eq held]
    cases stored <;> rfl
  · intro kind key entity changed
    obtain ⟨stored, held, rfl⟩ := found changed
    have spelled := named.spelled held
    cases stored <;> exact spelled

theorem mapContexts_mapContexts
    (tree : Tree) :
    (tree.mapContexts left).mapContexts right = tree.mapContexts (right ∘ left) := by
  apply ext_get?
  intro kind key
  rw [get?_mapContexts, get?_mapContexts, get?_mapContexts, Option.map_map]
  congr 1
  funext entity
  cases entity <;> rfl

end Tree
end Parley
