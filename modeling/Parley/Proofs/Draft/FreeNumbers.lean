import Mathlib
import Parley.Draft
import Parley.Proofs.Identifier
import Parley.Proofs.Tree.Mentions

/-!
# Identifiers that the library makes up

The identifier that a draft makes up for a kind stands for the least number that no name in use stands for.  Every smaller
number is taken by a name of its own, so the search for it ends after as many steps as there are names.
-/

namespace Parley
namespace Draft

variable {taken others : List Nat} {number : Nat} {draft : Draft} {kind : Kind}

/-! ## The least number that is left out -/

/-- The search for a number that is left out finds one: not all of a longer row of numbers can be taken. -/
theorem find?_eq_some_leastFree
    (taken : List Nat) :
    (List.range (taken.length + 1)).find? (fun number => !taken.contains number) = some (leastFree taken) := by
  cases found : (List.range (taken.length + 1)).find? (fun number => !taken.contains number) with
  | some number => rw [leastFree, found, Option.getD_some]
  | none =>
      have covered : List.range (taken.length + 1) ⊆ taken := by
        intro number inRange
        simpa using List.find?_eq_none.mp found number inRange
      have short := (List.nodup_range.subperm covered).length_le
      rw [List.length_range] at short
      omega

theorem leastFree_not_mem
    (taken : List Nat) :
    leastFree taken ∉ taken := by
  have free := List.find?_some (find?_eq_some_leastFree taken)
  simpa using free

theorem mem_of_lt_leastFree
    (smaller : number < leastFree taken) :
    number ∈ taken := by
  obtain ⟨_, _, below⟩ := List.find?_range_eq_some.mp (find?_eq_some_leastFree taken)
  simpa using below number smaller

theorem isLeast_leastFree
    (taken : List Nat) :
    IsLeast {number | number ∉ taken} (leastFree taken) :=
  ⟨leastFree_not_mem taken, fun _ free => not_lt.mp fun smaller => free (mem_of_lt_leastFree smaller)⟩

/-- The least number that is left out is no greater than the length of any list that has the others. -/
theorem leastFree_le_length
    (covers : taken ⊆ others) :
    leastFree taken ≤ others.length := by
  have smaller : List.range (leastFree taken) ⊆ others := fun number inRange =>
    covers (mem_of_lt_leastFree (List.mem_range.mp inRange))
  simpa using (List.nodup_range.subperm smaller).length_le

/-! ## Numbers in use -/

/-- The number of the identifier that a draft makes up for a kind. -/
def freeNumber (draft : Draft) (kind : Kind) : Nat := leastFree (draft.takenNumbers kind)

theorem nextId_eq
    (draft : Draft)
    (kind : Kind) :
    draft.nextId kind = Identifier.ofNumber (draft.freeNumber kind) draft.idWidth := rfl

theorem mem_takenNumbers_iff :
    number ∈ draft.takenNumbers kind ↔ draft.tree.Takes kind number := by
  simp only [takenNumbers, List.mem_filterMap, List.mem_append, Tree.mem_references_iff]
  rfl

theorem isLeast_freeNumber
    (draft : Draft)
    (kind : Kind) :
    IsLeast {number | ¬draft.tree.Takes kind number} (draft.freeNumber kind) := by
  rw [freeNumber]
  simpa only [mem_takenNumbers_iff] using isLeast_leastFree (draft.takenNumbers kind)

theorem freeNumber_le
    (draft : Draft)
    (kind : Kind) :
    draft.freeNumber kind ≤
      ((draft.tree.ids kind ++ draft.tree.referencedIds kind).filterMap Identifier.number?).length := by
  refine leastFree_le_length fun number member => ?_
  simpa only [takenNumbers, List.mem_filterMap, List.mem_append, Tree.mem_referencedIds_iff] using member

/-- The identifier that a draft makes up for a kind is legal and says, in decimal digits, the least number that no name in use
stands for.  The search for this number succeeds, and the number is at most that of the keys and of the different references
that are numbers.  As long as there are fewer keys and references than numbers that an identifier can have, the identifier
is read as this number again, and no spelling of the number is a key of the kind or named by an entity. -/
theorem nextId_least
    (draft : Draft)
    (kind : Kind) :
    ∃ number,
      draft.nextId kind = Identifier.ofNumber number draft.idWidth ∧
      IsLeast {number | ∀ name, draft.tree.Mentions kind name → Identifier.number? name ≠ some number} number ∧
      (List.range ((draft.takenNumbers kind).length + 1)).find?
        (fun number => !(draft.takenNumbers kind).contains number) = some number ∧
      number ≤ ((draft.tree.ids kind ++ draft.tree.referencedIds kind).filterMap Identifier.number?).length ∧
      Identifier.isLegal (draft.nextId kind) ∧
      ((draft.tree.ids kind).length + (draft.tree.referencedIds kind).length < Identifier.numberBound →
        Identifier.number? (draft.nextId kind) = some number ∧
          ∀ width, ¬draft.tree.Mentions kind (Identifier.ofNumber number width)) := by
  have least : IsLeast {number | ∀ name, draft.tree.Mentions kind name → Identifier.number? name ≠ some number}
      (draft.freeNumber kind) := by
    simpa only [Tree.Takes, not_exists, not_and] using isLeast_freeNumber draft kind
  refine ⟨draft.freeNumber kind, rfl, least, find?_eq_some_leastFree _, freeNumber_le draft kind,
    Identifier.isLegal_ofNumber _ _, fun room => ?_⟩
  have small : draft.freeNumber kind < Identifier.numberBound := calc
    draft.freeNumber kind
      ≤ ((draft.tree.ids kind ++ draft.tree.referencedIds kind).filterMap Identifier.number?).length :=
        freeNumber_le draft kind
    _ ≤ (draft.tree.ids kind ++ draft.tree.referencedIds kind).length := List.length_filterMap_le _ _
    _ = (draft.tree.ids kind).length + (draft.tree.referencedIds kind).length := List.length_append
    _ < Identifier.numberBound := room
  refine ⟨Identifier.number?_ofNumber small _, fun width mentioned => ?_⟩
  exact least.1 _ mentioned (Identifier.number?_ofNumber small width)

/-- A scene that starts with a dialogue that is not there, next to one that is. -/
def sparseTalk : Tree where
  scenes := .ofList [("a", { id := "a", start := "1" })]
  dialogues := .ofList [("00", { id := "00", text := "Hm." })]

/-- The next dialogue is the third, and no spelling of its number is in use. -/
theorem nextId_sparseTalk :
    (ofTree sparseTalk).nextId .dialogue = "0002" ∧
      (sparseTalk.ids .dialogue).length + (sparseTalk.referencedIds .dialogue).length < Identifier.numberBound ∧
        ∃ number, (ofTree sparseTalk).nextId .dialogue = Identifier.ofNumber number 4 ∧
          ∀ width, ¬sparseTalk.Mentions .dialogue (Identifier.ofNumber number width) := by
  have room : (sparseTalk.ids .dialogue).length + (sparseTalk.referencedIds .dialogue).length <
      Identifier.numberBound := by
    have count : (sparseTalk.ids .dialogue).length + (sparseTalk.referencedIds .dialogue).length = 2 := by cbv
    rw [count, Identifier.numberBound]
    norm_num
  obtain ⟨number, same, _, _, _, _, unused⟩ := nextId_least (ofTree sparseTalk) .dialogue
  exact ⟨by decide +kernel, room, number, same, (unused room).2⟩

end Draft
end Parley
