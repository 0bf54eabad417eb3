import Parley.Table
import Parley.Binary64

/-!
# Developer values and contexts

Every entity carries a context: named values that the library stores and never looks at.  The maps in a context list
their keys in order, at every depth, so equal contexts have one form.
-/

namespace Parley

/-- A value of a developer context. -/
inductive Value where
  /-- No value. -/
  | null
  /-- A truth value. -/
  | bool (value : Bool)
  /-- A whole number of 64 bits. -/
  | int (value : Int64)
  /-- A floating-point number. -/
  | float (value : Binary64)
  /-- A text. -/
  | string (value : String)
  /-- Values in a row. -/
  | list (items : List Value)
  /-- Values under keys. -/
  | map (fields : List (String × Value))
  deriving Inhabited

namespace Value

/-! ## Equality of values -/

mutual

/-- Whether two values are the same, floating-point numbers being compared as numbers. -/
def same : Value → Value → Bool
  | .null, .null => true
  | .bool x, .bool y => x == y
  | .int x, .int y => x == y
  | .float x, .float y => x.same y
  | .string x, .string y => x == y
  | .list xs, .list ys => sameItems xs ys
  | .map xs, .map ys => sameFields xs ys
  | _, _ => false

/-- Whether two rows hold the same values. -/
def sameItems : List Value → List Value → Bool
  | [], [] => true
  | x :: xs, y :: ys => x.same y && sameItems xs ys
  | _, _ => false

/-- Whether two maps hold the same values under the same keys. -/
def sameFields : List (String × Value) → List (String × Value) → Bool
  | [], [] => true
  | (key, x) :: xs, (otherKey, y) :: ys => key == otherKey && x.same y && sameFields xs ys
  | _, _ => false

end

/-! ## Maps in key order -/

mutual

/-- Every map in the value lists distinct keys in order. -/
def Ordered : Value → Prop
  | .list items => OrderedItems items
  | .map fields => KeysIncrease fields ∧ OrderedFields fields
  | _ => True

/-- Every map inside the values of a row lists distinct keys in order. -/
def OrderedItems : List Value → Prop
  | [] => True
  | item :: rest => item.Ordered ∧ OrderedItems rest

/-- Every map inside the values of a map lists distinct keys in order. -/
def OrderedFields : List (String × Value) → Prop
  | [] => True
  | (_, value) :: rest => value.Ordered ∧ OrderedFields rest

end

mutual

/-- The value with every map in key order; of two values under one key the later one stays. -/
def normalize : Value → Value
  | .list items => .list (normalizeItems items)
  | .map fields => .map (normalizeFields [] fields)
  | value => value

/-- The values of a row with every map in key order. -/
def normalizeItems : List Value → List Value
  | [] => []
  | item :: rest => item.normalize :: normalizeItems rest

/-- Add the normalized values of a map to those collected before. -/
def normalizeFields (collected : List (String × Value)) : List (String × Value) → List (String × Value)
  | [] => collected
  | (key, value) :: rest => normalizeFields (insertEntry key value.normalize collected) rest

end

theorem orderedFields_iff {fields : List (String × Value)} :
    OrderedFields fields ↔ ∀ field ∈ fields, field.2.Ordered := by
  induction fields with
  | nil => simp [OrderedFields]
  | cons head rest ih => simp [OrderedFields, ih]

theorem orderedFields_insertEntry {key : String} {value : Value} {fields : List (String × Value)}
    (valueOrdered : value.Ordered) (fieldsOrdered : OrderedFields fields) :
    OrderedFields (insertEntry key value fields) := by
  rw [orderedFields_iff] at fieldsOrdered ⊢
  intro field member
  rcases mem_of_mem_insertEntry member with same | inFields
  · exact same ▸ valueOrdered
  · exact fieldsOrdered field inFields

mutual

theorem ordered_normalize : (value : Value) → value.normalize.Ordered
  | .list items => by
    simpa [normalize, Ordered] using orderedItems_normalizeItems items
  | .map fields => by
    simpa [normalize, Ordered] using
      ordered_normalizeFields [] fields List.Pairwise.nil (by simp [OrderedFields])
  | .null | .bool _ | .int _ | .float _ | .string _ => by simp [normalize, Ordered]

theorem orderedItems_normalizeItems : (items : List Value) → OrderedItems (normalizeItems items)
  | [] => by simp [normalizeItems, OrderedItems]
  | item :: rest => by
    simpa [normalizeItems, OrderedItems] using
      ⟨ordered_normalize item, orderedItems_normalizeItems rest⟩

theorem ordered_normalizeFields : (collected fields : List (String × Value)) →
    KeysIncrease collected → OrderedFields collected →
    KeysIncrease (normalizeFields collected fields) ∧ OrderedFields (normalizeFields collected fields)
  | _, [], increasing, ordered => by simpa [normalizeFields] using ⟨increasing, ordered⟩
  | collected, (key, value) :: rest, increasing, ordered => by
    simpa [normalizeFields] using
      ordered_normalizeFields (insertEntry key value.normalize collected) rest
        (keysIncrease_insertEntry key value.normalize increasing)
        (orderedFields_insertEntry (ordered_normalize value) ordered)

end

end Value

/-! ## Contexts -/

/-- The developer data of an entity: a map in key order, with every map inside it in key order. -/
structure Context where
  /-- The named values. -/
  fields : List (String × Value)
  /-- Keys are distinct and in order at every depth. -/
  ordered : (Value.map fields).Ordered

namespace Context

theorem ext {left right : Context} (same : left.fields = right.fields) : left = right := by
  cases left
  cases right
  simpa using same

/-- The context without values. -/
def empty : Context := ⟨[], List.Pairwise.nil, trivial⟩

instance : Inhabited Context := ⟨empty⟩

/-- The context of named values in any order; of two values under one name the later one stays. -/
def ofFields (fields : List (String × Value)) : Context :=
  ⟨Value.normalizeFields [] fields, by
    simpa [Value.Ordered] using
      Value.ordered_normalizeFields [] fields List.Pairwise.nil (by simp [Value.OrderedFields])⟩

/-- Whether two contexts hold the same values under the same names. -/
def same (left right : Context) : Bool := Value.sameFields left.fields right.fields

end Context
end Parley
