import Mathlib
import Parley.Document.JsonForm
import Parley.Document.RonForm
import Parley.Proofs.Document.Recast
import Parley.Proofs.Json.Floats
import Parley.Proofs.Json.Texts
import Parley.Proofs.Ron.Texts

/-!
# Developer values as they are written

A developer value is read back from its JSON and from its RON with what the format keeps of its floating-point numbers, and
otherwise as it is, unless its lists and maps are nested too deep.  A map comes back with its keys in order, which is how a
context has it in the first place.
-/

namespace Parley

/-! ## Room for containers -/

namespace Json

variable {α β : Type} {needed further room : Nat} {value : α} {result : β}

/-- What is read where a value needs room for so many containers inside one another. -/
def inRoom (needed room : Nat) (value : α) : Except Fault α :=
  if needed ≤ room then .ok value else .error .malformed

theorem inRoom_bind
    {next : α → Except Fault β}
    (continues : next value = inRoom further room result) :
    (inRoom needed room value >>= next) = inRoom (max needed further) room result := by
  unfold inRoom at continues ⊢
  by_cases fits : needed ≤ room
  · simp only [fits, max_le_iff, true_and, if_true]
    exact continues
  · simp only [fits, max_le_iff, false_and, if_false]
    rfl

theorem inRoom_bind_ok
    {next : α → Except Fault β}
    (continues : next value = .ok result) :
    (inRoom needed room value >>= next) = inRoom needed room result := by
  unfold inRoom
  split_ifs
  · exact continues
  · rfl

theorem map_inRoom
    (change : α → β) :
    (inRoom needed room value).map change = inRoom needed room (change value) := by
  unfold inRoom
  split_ifs <;> rfl

/-- A container needs room for itself and for what is inside it. -/
theorem within_inRoom
    {read : Nat → Except Fault α}
    (inside : ∀ room, read room = inRoom needed room value) :
    within room read = inRoom (needed + 1) room value := by
  cases room with
  | zero => rfl
  | succ room =>
      rw [within, inside]
      simp only [inRoom, Nat.add_le_add_iff_right]

end Json

namespace Value

variable {key : String} {value : Value}

/-! ## Values without floating-point numbers -/

mutual

/-- No floating-point number is in the value. -/
def FloatFree : Value → Prop
  | .float _ => False
  | .list items => FloatFreeItems items
  | .map fields => FloatFreeFields fields
  | _ => True

/-- No floating-point number is in the values of a row. -/
def FloatFreeItems : List Value → Prop
  | [] => True
  | item :: rest => item.FloatFree ∧ FloatFreeItems rest

/-- No floating-point number is in the values of a map. -/
def FloatFreeFields : List (String × Value) → Prop
  | [] => True
  | (_, value) :: rest => value.FloatFree ∧ FloatFreeFields rest

end

mutual

/-- How many lists and maps are inside one another. -/
def depth : Value → Nat
  | .list items => itemsDepth items + 1
  | .map fields => fieldsDepth fields + 1
  | _ => 0

/-- How many lists and maps are inside one another in a row. -/
def itemsDepth : List Value → Nat
  | [] => 0
  | item :: rest => max item.depth (itemsDepth rest)

/-- How many lists and maps are inside one another in the values of a map. -/
def fieldsDepth : List (String × Value) → Nat
  | [] => 0
  | (_, value) :: rest => max value.depth (fieldsDepth rest)

end

mutual

/-- Where there are no floating-point numbers, all of them have any property. -/
theorem everyFloat_of_floatFree {p : Binary64 → Prop} : (value : Value) → value.FloatFree → value.EveryFloat p
  | .list items, free => everyFloatItems_of_floatFreeItems items free
  | .map fields, free => everyFloatFields_of_floatFreeFields fields free
  | .null, _ | .bool _, _ | .int _, _ | .string _, _ => trivial

theorem everyFloatItems_of_floatFreeItems {p : Binary64 → Prop} : (items : List Value) → FloatFreeItems items →
    EveryFloatItems p items
  | [], _ => trivial
  | item :: rest, free => ⟨everyFloat_of_floatFree item free.1, everyFloatItems_of_floatFreeItems rest free.2⟩

theorem everyFloatFields_of_floatFreeFields {p : Binary64 → Prop} : (fields : List (String × Value)) →
    FloatFreeFields fields → EveryFloatFields p fields
  | [], _ => trivial
  | (_, value) :: rest, free => ⟨everyFloat_of_floatFree value free.1, everyFloatFields_of_floatFreeFields rest free.2⟩

end

/-! ## Maps that are in order -/

theorem insertEntry_of_last
    {α : Type}
    {key : String}
    {value : α}
    {entries : List (String × α)}
    (last : ∀ entry ∈ entries, entry.1 < key) :
    insertEntry key value entries = entries ++ [(key, value)] := by
  induction entries with
  | nil => rfl
  | cons head rest inductionHypothesis =>
      obtain ⟨otherKey, otherValue⟩ := head
      obtain ⟨before, restLast⟩ := List.forall_mem_cons.mp last
      rw [insertEntry, if_neg (lt_asymm before), if_neg (ne_of_gt before), inductionHypothesis restLast]
      rfl

mutual

/-- A value whose maps are in order has its normal form. -/
theorem normalize_of_ordered : (value : Value) → value.Ordered → value.normalize = value
  | .list items, ordered => by
    rw [normalize, normalizeItems_of_ordered items ordered]
  | .map fields, ordered => by
    rw [normalize, normalizeFields_of_ordered fields [] ordered.1 ordered.2]
    rfl
  | .null, _ | .bool _, _ | .int _, _ | .float _, _ | .string _, _ => rfl

/-- Values whose maps are in order have their normal forms. -/
theorem normalizeItems_of_ordered : (items : List Value) → OrderedItems items → normalizeItems items = items
  | [], _ => rfl
  | item :: rest, ordered => by
    rw [normalizeItems, normalize_of_ordered item ordered.1, normalizeItems_of_ordered rest ordered.2]

/-- Fields that follow those collected before are added to them as they are. -/
theorem normalizeFields_of_ordered : (fields collected : List (String × Value)) →
    KeysIncrease (collected ++ fields) → OrderedFields fields →
      normalizeFields collected fields = collected ++ fields
  | [], collected, _, _ => by
    rw [normalizeFields, List.append_nil]
  | (key, value) :: rest, collected, increasing, ordered => by
    have last : ∀ entry ∈ collected, entry.1 < key := fun entry member =>
      (List.pairwise_append.mp increasing).2.2 entry member (key, value) List.mem_cons_self
    rw [List.append_cons] at increasing ⊢
    rw [normalizeFields, normalize_of_ordered value ordered.1, insertEntry_of_last last,
      normalizeFields_of_ordered rest _ increasing ordered.2]

end

end Value

/-- The fields of a context give the context again. -/
theorem Context.ofFields_fields
    (context : Context) :
    Context.ofFields context.fields = context :=
  Context.ext (Value.normalizeFields_of_ordered context.fields [] context.ordered.1 context.ordered.2)

/-- No floating-point number is in the context. -/
def Context.FloatFree (context : Context) : Prop := Value.FloatFreeFields context.fields

theorem Context.FloatFree.recast_eq
    {context : Context}
    (free : context.FloatFree)
    (change : Binary64 → Option Binary64) :
    context.recast change = context := by
  rw [recast_eq_recast_iff.mpr (Value.everyFloatFields_of_floatFreeFields context.fields free), recast_some]

/-- How many containers are inside one another in a context, itself being one. -/
def Context.depth (context : Context) : Nat := Value.fieldsDepth context.fields + 1

/-! ## JSON -/

/-- What JSON keeps of a floating-point number: nothing if the number is not finite. -/
def Json.kept (number : Binary64) : Option Binary64 :=
  if number.isNaN || number.isInfinite then none else some (Numeral.reread number)

theorem Json.finite_of_written
    {number : Binary64}
    (written : ¬(number.isNaN || number.isInfinite) = true) :
    number.magnitude < Binary64.infinityMagnitude := by
  simp only [Binary64.isNaN, Binary64.isInfinite, Bool.or_eq_true, decide_eq_true_eq, beq_iff_eq] at written
  omega

namespace Value

mutual

theorem proper_toJson : (value : Value) → value.toJson.Proper
  | .int number => by
    rw [toJson]
    exact Json.Numeral.proper_ofInt number.toInt
  | .float number => by
    rw [toJson]
    split_ifs with infinite
    · trivial
    · exact Json.Numeral.proper_ofBinary64 (Json.finite_of_written infinite)
  | .list items => by
    rw [toJson]
    exact proper_itemsToJson items
  | .map fields => by
    rw [toJson]
    exact proper_fieldsToJson fields
  | .null | .bool _ | .string _ => by
    rw [toJson]
    trivial

theorem proper_itemsToJson : (items : List Value) → Json.ProperItems (itemsToJson items)
  | [] => trivial
  | item :: rest => ⟨proper_toJson item, proper_itemsToJson rest⟩

theorem proper_fieldsToJson : (fields : List (String × Value)) → Json.ProperMembers (fieldsToJson fields)
  | [] => trivial
  | (_, value) :: rest => ⟨proper_toJson value, proper_fieldsToJson rest⟩

end

mutual

/-- A value is read from its JSON with what JSON keeps of its numbers, if there is room for its lists and maps. -/
theorem anyValue_seen : (value : Value) → (room : Nat) →
    Json.anyValue room value.toJson.seen = Json.inRoom value.depth room (value.recast Json.kept)
  | .null, _ => rfl
  | .bool _, _ => rfl
  | .int number, _ => by
    obtain ⟨value, given, same⟩ := Option.map_eq_some_iff.mp (Json.ofNumber_value?_ofInt number)
    rw [toJson, Json.seen, Json.anyValue, given]
    exact congrArg Except.ok same
  | .float number, _ => by
    rw [toJson, recast, Json.kept]
    split_ifs with infinite
    · rfl
    · rw [Json.seen, Json.anyValue, Json.Numeral.value?_ofBinary64 (Json.finite_of_written infinite)]
      rfl
  | .string text, _ => by
    rw [toJson, Json.ofString, Json.seen, Json.anyValue, String.ofList_toList]
    rfl
  | .list items, room => by
    rw [toJson, Json.seen, Json.anyValue, depth]
    refine Json.within_inRoom fun room => ?_
    rw [anyItems_seen items room]
    exact Json.inRoom_bind_ok rfl
  | .map fields, room => by
    rw [toJson, Json.seen, Json.anyValue, depth]
    refine Json.within_inRoom fun room => ?_
    rw [anyFields_seen fields room]
    exact Json.inRoom_bind_ok rfl

theorem anyItems_seen : (items : List Value) → (room : Nat) →
    Json.anyItems room (Json.seenItems (itemsToJson items)) =
      Json.inRoom (itemsDepth items) room (recastItems Json.kept items)
  | [], _ => rfl
  | item :: rest, room => by
    rw [itemsToJson, Json.seenItems, Json.anyItems, anyValue_seen item, anyItems_seen rest, itemsDepth]
    exact Json.inRoom_bind (Json.inRoom_bind_ok rfl)

theorem anyFields_seen : (fields : List (String × Value)) → (room : Nat) →
    Json.anyFields room (Json.seenMembers (fieldsToJson fields)) =
      Json.inRoom (fieldsDepth fields) room (recastFields Json.kept fields)
  | [], _ => rfl
  | (key, value) :: rest, room => by
    rw [fieldsToJson, Json.member, Json.seenMembers, Json.anyFields, anyValue_seen value,
      anyFields_seen rest, fieldsDepth, String.ofList_toList]
    exact Json.inRoom_bind (Json.inRoom_bind_ok rfl)

end

end Value

/-! ## RON -/

/-- The number itself, or the one word for no number in place of the others. -/
def Binary64.settled (number : Binary64) : Binary64 := if number.isNaN then .notANumber else number

theorem Binary64.eq_notANumber_of_settled
    (number : Binary64) :
    number.settled.isNaN = true → number.settled = .notANumber := by
  rw [settled]
  split_ifs with none
  · exact fun _ => rfl
  · exact fun isNaN => absurd isNaN none

theorem Binary64.settled_settled
    (number : Binary64) :
    number.settled.settled = number.settled := by
  rw [settled]
  split_ifs with none
  · exact (number.eq_notANumber_of_settled none).symm
  · rfl

/-- What RON keeps of a floating-point number. -/
def Ron.kept (number : Binary64) : Option Binary64 := some number.settled

theorem Ron.floatText_settled
    (number : Binary64) :
    floatText number.settled = floatText number := by
  rw [Binary64.settled]
  split_ifs with none
  · have alsoNone : Binary64.notANumber.isNaN = true := by decide
    rw [floatText, floatText, if_pos none, if_pos alsoNone]
  · rfl

namespace Value

theorem ofRonInt_toInt
    (number : Int64) :
    ofRonInt number.toInt = .int number := by
  have bound := number.toInt_lt
  have small : number.toInt.toNat < Nat.pow 2 63 := by
    rw [Nat.pow_eq]
    omega
  rw [ofRonInt, if_pos small, Int64.ofInt_toInt]

theorem plain_ofInt
    (number : Int64) :
    (Ron.ofInt number.toInt).Plain := by
  have low := number.le_toInt
  have high := number.toInt_lt
  refine ⟨rfl, ?_⟩
  rw [Ron.InRange, Nat.pow_eq, Nat.pow_eq]
  omega

mutual

/-- The numbers that RON keeps are written in the same way as those that it was given. -/
theorem write_toRon_recast : (value : Value) → (indent : Nat) →
    Ron.write indent (value.recast Ron.kept).toRon = Ron.write indent value.toRon
  | .float number, indent => by
    rw [toRon, recast, Ron.kept, Option.map_some, Option.getD_some, toRon, Ron.write, Ron.write,
      Ron.floatText_settled]
  | .list items, indent => by
    rw [toRon, recast, toRon]
    cases items with
    | nil => rfl
    | cons item rest =>
        have same := writeItems_recastItems (item :: rest) (indent + 1)
        rw [recastItems, itemsToRon, itemsToRon] at same ⊢
        rw [Ron.write, Ron.write, same]
  | .map fields, indent => by
    rw [toRon, recast, toRon]
    cases fields with
    | nil => rfl
    | cons field rest =>
        obtain ⟨key, value⟩ := field
        have same := writeEntries_recastFields ((key, value) :: rest) (indent + 1)
        rw [recastFields, fieldsToRon, fieldsToRon] at same ⊢
        rw [Ron.write, Ron.write, same]
  | .null, _ | .bool _, _ | .int _, _ | .string _, _ => rfl

theorem writeItems_recastItems : (items : List Value) → (indent : Nat) →
    Ron.writeItems indent (itemsToRon (recastItems Ron.kept items)) = Ron.writeItems indent (itemsToRon items)
  | [], _ => rfl
  | item :: rest, indent => by
    rw [recastItems, itemsToRon, itemsToRon, Ron.writeItems, Ron.writeItems, write_toRon_recast item,
      writeItems_recastItems rest]

theorem writeEntries_recastFields : (fields : List (String × Value)) → (indent : Nat) →
    Ron.writeEntries indent (fieldsToRon (recastFields Ron.kept fields)) = Ron.writeEntries indent (fieldsToRon fields)
  | [], _ => rfl
  | (key, value) :: rest, indent => by
    rw [recastFields, fieldsToRon, fieldsToRon, Ron.writeEntries, Ron.writeEntries, write_toRon_recast value,
      writeEntries_recastFields rest]

end

mutual

theorem plain_toRon : (value : Value) → (value.recast Ron.kept).toRon.Plain
  | .int number => plain_ofInt number
  | .float number => by
    rw [recast, Ron.kept, Option.map_some, Option.getD_some, toRon]
    exact number.eq_notANumber_of_settled
  | .list items => by
    rw [recast, toRon]
    exact plain_itemsToRon items
  | .map fields => by
    rw [recast, toRon]
    exact plain_fieldsToRon fields
  | .null | .bool _ | .string _ => trivial

theorem plain_itemsToRon : (items : List Value) → Ron.PlainItems (itemsToRon (recastItems Ron.kept items))
  | [] => trivial
  | item :: rest => ⟨plain_toRon item, plain_itemsToRon rest⟩

theorem plain_fieldsToRon : (fields : List (String × Value)) →
    Ron.PlainEntries (fieldsToRon (recastFields Ron.kept fields))
  | [] => trivial
  | (_, value) :: rest => ⟨trivial, plain_toRon value, plain_fieldsToRon rest⟩

end

mutual

/-- Other numbers are nested no deeper. -/
theorem nesting_toRon_recast : (value : Value) → (value.recast Ron.kept).toRon.nesting = value.toRon.nesting
  | .list items => by
    rw [recast, toRon, toRon, Ron.nesting, Ron.nesting, itemsNesting_recastItems items]
  | .map fields => by
    rw [recast, toRon, toRon, Ron.nesting, Ron.nesting, entriesNesting_recastFields fields]
  | .null | .bool _ | .int _ | .float _ | .string _ => rfl

theorem itemsNesting_recastItems : (items : List Value) →
    Ron.itemsNesting (itemsToRon (recastItems Ron.kept items)) = Ron.itemsNesting (itemsToRon items)
  | [] => rfl
  | item :: rest => by
    rw [recastItems, itemsToRon, itemsToRon, Ron.itemsNesting, Ron.itemsNesting, nesting_toRon_recast item,
      itemsNesting_recastItems rest]

theorem entriesNesting_recastFields : (fields : List (String × Value)) →
    Ron.entriesNesting (fieldsToRon (recastFields Ron.kept fields)) = Ron.entriesNesting (fieldsToRon fields)
  | [] => rfl
  | (key, value) :: rest => by
    rw [recastFields, fieldsToRon, fieldsToRon, Ron.entriesNesting, Ron.entriesNesting, nesting_toRon_recast value,
      entriesNesting_recastFields rest]

end

mutual

/-- A value is read from its RON as it is. -/
theorem ofRon?_toRon : (value : Value) → ofRon? value.toRon = some value
  | .null => rfl
  | .bool _ => rfl
  | .int number => by
    rw [toRon, Ron.ofInt, ofRon?, ofRonInt_toInt]
  | .float _ => rfl
  | .string text => by
    rw [toRon, Ron.ofString, ofRon?, String.ofList_toList]
  | .list items => by
    rw [toRon, ofRon?, itemsOfRon?_itemsToRon items]
    rfl
  | .map fields => by
    rw [toRon, ofRon?, entriesOfRon?_fieldsToRon fields]
    rfl

theorem itemsOfRon?_itemsToRon : (items : List Value) → itemsOfRon? (itemsToRon items) = some items
  | [] => rfl
  | item :: rest => by
    rw [itemsToRon, itemsOfRon?, ofRon?_toRon item, itemsOfRon?_itemsToRon rest]
    rfl

theorem entriesOfRon?_fieldsToRon : (fields : List (String × Value)) → entriesOfRon? (fieldsToRon fields) = some fields
  | [] => rfl
  | (key, value) :: rest => by
    rw [fieldsToRon, Ron.ofString, entriesOfRon?, ofRon?_toRon value, entriesOfRon?_fieldsToRon rest,
      String.ofList_toList]
    rfl

end

end Value
end Parley
