import Mathlib.Data.Finmap
import Mathlib.Data.Finset.Card
import Parley.Proofs.Tree.Mentions

/-!
# A tree as one finite map

The three tables of a tree are one finite map, from a kind and an identifier to an entity.  What a tree answers about its
entities, one by one or all together, is what this map says, and a tree is changed by putting and erasing as the map is by
inserting and erasing.
-/

namespace Parley

/-- A finite map from kinds and identifiers to entities. -/
abbrev Store := Finmap fun _ : Kind × String => Entity

/-- Where an entity belongs: under its kind and its own identifier. -/
def Entity.place (entity : Entity) : Kind × String := (entity.kind, entity.id)

namespace Tree

variable {tree left right : Tree} {kind : Kind} {place : Kind × String}

/-! ## The map of a tree -/

/-- All places at which a tree holds an entity. -/
def places (tree : Tree) : List (Kind × String) :=
  (tree.ids .scene).map (.scene, ·) ++ (tree.ids .dialogue).map (.dialogue, ·) ++ (tree.ids .action).map (.action, ·)

theorem mem_places_iff :
    place ∈ tree.places ↔ place.2 ∈ tree.ids place.1 := by
  obtain ⟨kind, id⟩ := place
  cases kind <;> simp [places]

theorem isSome_get?_iff :
    (tree.get? place.1 place.2).isSome ↔ place ∈ tree.places.toFinset := by
  rw [List.mem_toFinset, mem_places_iff, mem_ids_iff, Option.isSome_iff_exists]

/-- The tables of a tree as one finite map. -/
def store (tree : Tree) : Store :=
  Finmap.keysLookupEquiv.symm
    ⟨(tree.places.toFinset, fun place => tree.get? place.1 place.2), fun _ => isSome_get?_iff⟩

@[simp] theorem lookup_store
    (tree : Tree)
    (place : Kind × String) :
    tree.store.lookup place = tree.get? place.1 place.2 :=
  Finmap.keysLookupEquiv_symm_apply_lookup _ place

@[simp] theorem keys_store
    (tree : Tree) :
    tree.store.keys = tree.places.toFinset :=
  Finmap.keysLookupEquiv_symm_apply_keys _

theorem mem_store_iff :
    place ∈ tree.store ↔ place.2 ∈ tree.ids place.1 := by
  rw [← Finmap.mem_keys, keys_store, List.mem_toFinset, mem_places_iff]

theorem mem_store_iff_get?_ne_none
    {id : String} :
    (kind, id) ∈ tree.store ↔ tree.get? kind id ≠ none := by
  rw [← Finmap.lookup_isSome, lookup_store, Option.isSome_iff_ne_none]

theorem store_put
    (tree : Tree)
    (entity : Entity) :
    (tree.put entity).store = tree.store.insert entity.place entity := by
  apply Finmap.ext_lookup
  intro place
  rw [lookup_store, get?_put]
  by_cases here : place = entity.place
  · rw [here, if_pos ⟨rfl, rfl⟩, Finmap.lookup_insert]
  · rw [if_neg fun same => here (Prod.ext same.1 same.2), Finmap.lookup_insert_of_ne _ here, lookup_store]

theorem store_erase
    (tree : Tree)
    (kind : Kind)
    (id : String) :
    (tree.erase kind id).store = tree.store.erase (kind, id) := by
  apply Finmap.ext_lookup
  intro place
  rw [lookup_store, get?_erase]
  by_cases here : place = (kind, id)
  · rw [here, if_pos ⟨rfl, rfl⟩, Finmap.lookup_erase]
  · rw [if_neg fun same => here (Prod.ext same.1 same.2), Finmap.lookup_erase_ne here, lookup_store]

/-! ## What a tree answers -/

/-- A tree answers every question about its entities as a finite map does. -/
structure Holds (tree : Tree) (store : Store) : Prop where
  get?_eq : ∀ kind id, tree.get? kind id = store.lookup (kind, id)
  contains_iff : ∀ kind id, tree.contains kind id = true ↔ (kind, id) ∈ store
  mem_ids_iff : ∀ kind id, id ∈ tree.ids kind ↔ (kind, id) ∈ store
  /-- Identifiers are listed in order, each once. -/
  ids_increasing : ∀ kind, (tree.ids kind).Pairwise (· < ·)
  size_eq : tree.size = store.keys.card
  isEmpty_iff : tree.isEmpty = true ↔ store = ∅

theorem ids_increasing
    (tree : Tree)
    (kind : Kind) :
    (tree.ids kind).Pairwise (· < ·) := by
  cases kind with
  | scene => exact List.pairwise_map.mpr tree.scenes.increasing
  | dialogue => exact List.pairwise_map.mpr tree.dialogues.increasing
  | action => exact List.pairwise_map.mpr tree.actions.increasing

theorem nodup_places
    (tree : Tree) :
    tree.places.Nodup := by
  have apart (kind : Kind) : ((tree.ids kind).map (kind, ·)).Nodup :=
    List.Nodup.map (Prod.mk_right_injective kind) ((tree.ids_increasing kind).imp Std.ne_of_lt)
  simp only [places, List.nodup_append, List.mem_append, List.mem_map]
  refine ⟨⟨apart _, apart _, ?_⟩, apart _, ?_⟩
  · rintro _ ⟨_, _, rfl⟩ _ ⟨_, _, rfl⟩
    exact nofun
  · rintro _ (⟨_, _, rfl⟩ | ⟨_, _, rfl⟩) _ ⟨_, _, rfl⟩
    · exact nofun
    · exact nofun

theorem length_places
    (tree : Tree) :
    tree.places.length = tree.size := by
  simp only [places, ids, size, List.length_append, List.length_map, Table.length_keys]

theorem isEmpty_iff_size :
    tree.isEmpty = true ↔ tree.size = 0 := by
  simp [isEmpty, size, Table.isEmpty, Table.size, and_assoc]

/-- A tree answers as the finite map of its tables. -/
theorem holds_store
    (tree : Tree) :
    tree.Holds tree.store := by
  have size : tree.size = tree.store.keys.card := by
    rw [keys_store, List.toFinset_card_of_nodup tree.nodup_places, length_places]
  refine ⟨fun kind id => (lookup_store tree (kind, id)).symm, fun kind id => ?_,
    fun kind id => (@mem_store_iff tree (kind, id)).symm, tree.ids_increasing, size, ?_⟩
  · rw [contains, Option.isSome_iff_exists, ← mem_ids_iff, mem_store_iff]
  · rw [isEmpty_iff_size, size, Finset.card_eq_zero]
    refine ⟨fun none => Finmap.ext_lookup fun place => ?_, fun none => none ▸ Finmap.keys_empty⟩
    rw [Finmap.lookup_empty, Finmap.lookup_eq_none, ← Finmap.mem_keys, none]
    exact Finset.notMem_empty place

/-! ## One table -/

/-- Two trees have one table of a kind. -/
def SameTable (left right : Tree) : Kind → Prop
  | .scene => left.scenes = right.scenes
  | .dialogue => left.dialogues = right.dialogues
  | .action => left.actions = right.actions

theorem sameTable_of_get?
    (same : ∀ key, left.get? kind key = right.get? kind key) :
    SameTable left right kind := by
  cases kind with
  | scene => exact Table.ext_get? fun key => Option.map_injective (fun _ _ => Entity.scene.inj) (same key)
  | dialogue => exact Table.ext_get? fun key => Option.map_injective (fun _ _ => Entity.dialogue.inj) (same key)
  | action => exact Table.ext_get? fun key => Option.map_injective (fun _ _ => Entity.action.inj) (same key)

theorem sameTable_put
    {entity : Entity}
    (other : kind ≠ entity.kind) :
    SameTable (tree.put entity) tree kind :=
  sameTable_of_get? fun key => by rw [get?_put, if_neg fun here => other here.1]

theorem sameTable_erase
    {erased : Kind}
    {id : String}
    (other : kind ≠ erased) :
    SameTable (tree.erase erased id) tree kind :=
  sameTable_of_get? fun key => by rw [get?_erase, if_neg fun here => other here.1]

end Tree
end Parley
