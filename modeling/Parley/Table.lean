/-!
# Tables

A table holds values under distinct text keys and lists them in the order of their keys.  The order is part of the
type, so two tables with the same values under the same keys are equal.
-/

namespace Parley

/-- A list of keyed values whose keys strictly increase. -/
def KeysIncrease {α : Type} (entries : List (String × α)) : Prop :=
  entries.Pairwise (fun earlier later => earlier.1 < later.1)

/-- Put a value under a key into a list of keyed values in key order, in place of a value under the same key. -/
def insertEntry {α : Type} (key : String) (value : α) : List (String × α) → List (String × α)
  | [] => [(key, value)]
  | (otherKey, otherValue) :: rest =>
    if key < otherKey then (key, value) :: (otherKey, otherValue) :: rest
    else if key = otherKey then (key, value) :: rest
    else (otherKey, otherValue) :: insertEntry key value rest

theorem mem_of_mem_insertEntry {α : Type} {key : String} {value : α} {entry : String × α}
    {entries : List (String × α)} (member : entry ∈ insertEntry key value entries) :
    entry = (key, value) ∨ entry ∈ entries := by
  induction entries with
  | nil => simpa [insertEntry] using member
  | cons head rest ih =>
    obtain ⟨otherKey, otherValue⟩ := head
    unfold insertEntry at member
    split at member
    · simpa using member
    · split at member <;> simp only [List.mem_cons] at member ⊢
      · rcases member with same | inRest
        · exact .inl same
        · exact .inr (.inr inRest)
      · rcases member with same | inRest
        · exact .inr (.inl same)
        · rcases ih inRest with same | inRest
          · exact .inl same
          · exact .inr (.inr inRest)

theorem keysIncrease_insertEntry {α : Type} (key : String) (value : α) {entries : List (String × α)}
    (increasing : KeysIncrease entries) : KeysIncrease (insertEntry key value entries) := by
  induction entries with
  | nil => simp [insertEntry, KeysIncrease]
  | cons head rest ih =>
    obtain ⟨otherKey, otherValue⟩ := head
    obtain ⟨below, restIncreasing⟩ := List.pairwise_cons.mp increasing
    unfold insertEntry
    split
    · rename_i before
      refine List.pairwise_cons.mpr ⟨?_, increasing⟩
      intro entry member
      rcases List.mem_cons.mp member with same | inRest
      · exact same ▸ before
      · exact String.lt_trans before (below entry inRest)
    · split
      · rename_i _ same
        subst same
        exact List.pairwise_cons.mpr ⟨below, restIncreasing⟩
      · rename_i notBefore different
        refine List.pairwise_cons.mpr ⟨?_, ih restIncreasing⟩
        intro entry member
        rcases mem_of_mem_insertEntry member with same | inRest
        · subst same
          exact Std.lt_of_le_of_ne (String.not_lt.mp notBefore) (Ne.symm different)
        · exact below entry inRest

/-- Values under distinct keys, in key order. -/
structure Table (α : Type) where
  /-- Every key with its value. -/
  entries : List (String × α)
  /-- Keys are distinct and in order. -/
  increasing : KeysIncrease entries

namespace Table

variable {α β : Type}

theorem ext {left right : Table α} (same : left.entries = right.entries) : left = right := by
  cases left
  cases right
  simpa using same

instance [DecidableEq α] : DecidableEq (Table α) := fun left right =>
  decidable_of_iff (left.entries = right.entries) ⟨ext, fun same => same ▸ rfl⟩

/-- The table with no entry. -/
def empty : Table α := ⟨[], List.Pairwise.nil⟩

instance : Inhabited (Table α) := ⟨empty⟩

/-- The value under a key. -/
def get? (table : Table α) (key : String) : Option α := table.entries.lookup key

/-- Whether a value is held under a key. -/
def contains (table : Table α) (key : String) : Bool := (table.get? key).isSome

/-- Put a value under a key, in place of a value that is there. -/
def insert (table : Table α) (key : String) (value : α) : Table α :=
  ⟨insertEntry key value table.entries, keysIncrease_insertEntry key value table.increasing⟩

/-- Take away the value under a key. -/
def erase (table : Table α) (key : String) : Table α :=
  ⟨table.entries.filter (fun entry => entry.1 != key), table.increasing.filter _⟩

/-- The keys in order. -/
def keys (table : Table α) : List String := table.entries.map Prod.fst

theorem nodup_keys (table : Table α) : table.keys.Nodup := by
  unfold keys List.Nodup
  rw [List.pairwise_map]
  exact table.increasing.imp fun before => Std.ne_of_lt before

/-- The values in the order of their keys. -/
def values (table : Table α) : List α := table.entries.map Prod.snd

/-- The number of entries. -/
def size (table : Table α) : Nat := table.entries.length

theorem length_keys (table : Table α) : table.keys.length = table.size := List.length_map ..

/-- Whether there is no entry. -/
def isEmpty (table : Table α) : Bool := table.entries.isEmpty

/-- The table with every value changed, under the same keys. -/
def mapEntries (change : String → α → β) (table : Table α) : Table β :=
  ⟨table.entries.map (fun entry => (entry.1, change entry.1 entry.2)),
    by
      unfold KeysIncrease
      rw [List.pairwise_map]
      exact table.increasing⟩

/-! ### What is held under a key -/

theorem get?_eq_some_iff {table : Table α} {key : String} {value : α} :
    table.get? key = some value ↔ (key, value) ∈ table.entries := by
  unfold get?
  rw [List.lookup_eq_some_iff]
  constructor
  · rintro ⟨front, behind, split, _⟩
    rw [split]
    exact List.mem_append_right _ List.mem_cons_self
  · intro member
    obtain ⟨front, behind, split⟩ := List.append_of_mem member
    refine ⟨front, behind, split, fun entry inFront => ?_⟩
    have increasing := table.increasing
    rw [split] at increasing
    have before := (List.pairwise_append.mp increasing).2.2 entry inFront (key, value) List.mem_cons_self
    simpa using (Std.ne_of_lt before).symm

theorem mem_keys_iff {table : Table α} {key : String} :
    key ∈ table.keys ↔ ∃ value, table.get? key = some value := by
  simp only [keys, List.mem_map, Prod.exists, get?_eq_some_iff, exists_and_right, exists_eq_right]

theorem mem_values_iff {table : Table α} {value : α} :
    value ∈ table.values ↔ ∃ key, table.get? key = some value := by
  simp only [values, List.mem_map, Prod.exists, get?_eq_some_iff, exists_eq_right]

theorem contains_iff {table : Table α} {key : String} : table.contains key = true ↔ key ∈ table.keys := by
  rw [contains, Option.isSome_iff_exists, mem_keys_iff]

@[simp] theorem keys_mapEntries (change : String → α → β) (table : Table α) :
    (table.mapEntries change).keys = table.keys := by
  simp [keys, mapEntries]

theorem get?_mapEntries (change : String → α → β) (table : Table α) (key : String) :
    (table.mapEntries change).get? key = (table.get? key).map (change key) := by
  ext value
  simp only [get?_eq_some_iff, mapEntries, List.mem_map, Prod.mk.injEq, Prod.exists, Option.map_eq_some_iff]
  constructor
  · rintro ⟨_, old, member, rfl, rfl⟩
    exact ⟨old, member, rfl⟩
  · rintro ⟨old, member, rfl⟩
    exact ⟨key, old, member, rfl, rfl⟩

/-- The table of a list of keyed values; of two values under one key the later one stays. -/
def ofList (entries : List (String × α)) : Table α :=
  entries.foldl (fun table entry => table.insert entry.1 entry.2) empty

end Table

/-! ## Sets of keys -/

/-- A set of texts, in order. -/
abbrev KeySet := Table Unit

/-- The set of the texts in a list. -/
def KeySet.ofList (keys : List String) : KeySet := Table.ofList (keys.map (fun key => (key, ())))

end Parley
