import Parley.Proofs.Integrity.Paths
import Parley.Proofs.Tree.Store

/-!
# Names in use

A name of a kind is in use if an entity of this kind stands under it or any entity points at it.  The references that a tree
collects are just the pointers of its entities.
-/

namespace Parley

/-- An entity points at an entity of a kind by a name. -/
def Entity.PointsAt : Entity → Kind → String → Prop
  | .scene s, kind, name => kind = .dialogue ∧ name = s.start
  | .dialogue d, kind, name => kind = .action ∧ name ∈ d.actions
  | .action a, kind, name => kind = .dialogue ∧ (name = a.owner ∨ a.next = .dialogue name)

namespace Tree

variable {tree : Tree} {kind : Kind} {name : String} {number : Nat} {entity : Entity}

/-- A name stands over an entity of a kind, or an entity points at it. -/
def Mentions (tree : Tree) (kind : Kind) (name : String) : Prop :=
  name ∈ tree.ids kind ∨ ∃ entity ∈ tree.entities, entity.PointsAt kind name

/-- A number is in use if a name in use stands for it. -/
def Takes (tree : Tree) (kind : Kind) (number : Nat) : Prop :=
  ∃ name, tree.Mentions kind name ∧ Identifier.number? name = some number

theorem mem_ids_iff :
    name ∈ tree.ids kind ↔ ∃ entity, tree.get? kind name = some entity := by
  cases kind <;> simp [ids, get?, Table.mem_keys_iff]

/-- The collected references are the names that entities point at. -/
theorem mem_references_iff :
    name ∈ tree.references kind ↔ ∃ entity ∈ tree.entities, entity.PointsAt kind name := by
  cases kind with
  | scene =>
      refine iff_of_false List.not_mem_nil ?_
      rintro ⟨entity, _, points⟩
      cases entity <;> exact absurd points.1 Kind.noConfusion
  | dialogue =>
      simp [references, entities, Entity.PointsAt, or_and_right, exists_or, Next.dialogue?_eq_some_iff, eq_comm (a := name)]
  | action =>
      simp [references, entities, Entity.PointsAt, or_and_right, exists_or]

theorem mem_referencedIds_iff :
    name ∈ tree.referencedIds kind ↔ name ∈ tree.references kind := by
  simp [referencedIds, KeySet.ofList, Table.mem_keys_ofList_iff]

/-! ## After a change -/

theorem mem_ids_put_iff :
    name ∈ (tree.put entity).ids kind ↔ (kind = entity.kind ∧ name = entity.id) ∨ name ∈ tree.ids kind := by
  simp only [mem_ids_iff, get?_put]
  split_ifs with here
  · simp [here]
  · simp [here]

/-- An entity that is put under a free name takes no name out of use. -/
theorem Mentions.put
    (mentioned : tree.Mentions kind name)
    (free : tree.get? entity.kind entity.id = none) :
    (tree.put entity).Mentions kind name := by
  rcases mentioned with key | ⟨pointer, member, points⟩
  · exact .inl (mem_ids_put_iff.mpr (.inr key))
  · obtain ⟨key, found⟩ := mem_entities_iff.mp member
    refine .inr ⟨pointer, mem_entities_iff.mpr ⟨key, ?_⟩, points⟩
    rw [get?_put, if_neg]
    · exact found
    · rintro ⟨sameKind, rfl⟩
      rw [sameKind, free] at found
      cases found

end Tree
end Parley
