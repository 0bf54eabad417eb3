import Parley.Proofs.Digraph.WalkPaths

/-!
# Leaving a node

When all edges of the innermost active node are followed, the walk leaves it.  If the node reaches a lower one it stays
open, and the node before it takes over what it reaches.  If not, the nodes opened since are taken off the stack.
-/

namespace Parley
namespace Walk

variable {n : Nat} {graph : Adjacency n} {walk : Walk n}

/-! ## Taking over what a node reaches -/

theorem passOn_eq (walk : Walk n) (node : Fin n) :
    walk.passOn node = { walk with low := (walk.passOn node).low } := by
  unfold passOn
  split <;> rfl

theorem low_passOn
    (walk : Walk n)
    (node : Fin n)
    {parent : Fin n}
    {left : List (Fin n)}
    {outer : List (Fin n × List (Fin n))}
    (calls : walk.calls = (parent, left) :: outer)
    (other : Fin n) :
    (walk.passOn node).low.get other =
      if other = parent then min (walk.low.get parent) (walk.low.get node) else walk.low.get other := by
  unfold passOn
  rw [calls]
  exact low_lower ..

theorem low_passOn_le (walk : Walk n) (node other : Fin n) :
    (walk.passOn node).low.get other ≤ walk.low.get other := by
  cases calls : walk.calls with
  | nil => simp [passOn, calls]
  | cons call outer =>
      rw [low_passOn walk node calls]
      split
      · rename_i equal
        exact equal ▸ Nat.min_le_left _ _
      · exact Nat.le_refl _

/-! ## The open nodes from a node on -/

/-- The stack consists of the nodes opened from a node on and the nodes opened before it. -/
theorem openedSince_append_openedBefore
    {node : Fin n}
    (isOpen : node ∈ walk.stack) :
    walk.openedSince node ++ walk.openedBefore node = walk.stack := by
  have found : ∀ nodes : List (Fin n), node ∈ nodes →
      node :: (nodes.dropWhile (· != node)).tail = nodes.dropWhile (· != node) := by
    intro nodes member
    induction nodes with
    | nil => contradiction
    | cons first rest inductionHypothesis =>
        by_cases equal : first = node
        · simp [equal]
        · have inRest := (List.mem_cons.mp member).resolve_left fun same => equal same.symm
          simpa [equal] using inductionHypothesis inRest
  calc walk.openedSince node ++ walk.openedBefore node
      = walk.stack.takeWhile (· != node) ++ node :: (walk.stack.dropWhile (· != node)).tail := by
        simp [openedSince, openedBefore]
    _ = walk.stack.takeWhile (· != node) ++ walk.stack.dropWhile (· != node) := by
        rw [found walk.stack isOpen]
    _ = walk.stack := List.takeWhile_append_dropWhile

/-- The nodes opened from a node on are the open nodes that do not rank below it. -/
theorem Ordered.mem_openedSince
    (ordered : Ordered graph walk)
    {node : Fin n}
    (isOpen : node ∈ walk.stack)
    {other : Fin n} :
    other ∈ walk.openedSince node ↔
      other ∈ walk.stack ∧ walk.rank node ≤ walk.rank other := by
  have sorted := ordered.stack_sorted
  rw [← openedSince_append_openedBefore isOpen, List.pairwise_append] at sorted
  obtain ⟨sinceSorted, _, above⟩ := sorted
  constructor
  · intro member
    refine ⟨openedSince_append_openedBefore isOpen ▸ List.mem_append_left _ member, ?_⟩
    rcases List.mem_append.mp member with later | same
    · exact Nat.le_of_lt ((List.pairwise_append.mp sinceSorted).2.2 other later node List.mem_cons_self)
    · exact Nat.le_of_eq (congrArg walk.rank (List.mem_singleton.mp same).symm)
  · rintro ⟨member, notBelow⟩
    rw [← openedSince_append_openedBefore isOpen] at member
    rcases List.mem_append.mp member with inside | outside
    · exact inside
    · have below := above node (List.mem_append_right _ List.mem_cons_self) other outside
      exact absurd below (Nat.not_lt.mpr notBelow)

/-- The nodes opened before a node are the open nodes that rank below it. -/
theorem Ordered.mem_openedBefore
    (ordered : Ordered graph walk)
    {node : Fin n}
    (isOpen : node ∈ walk.stack)
    {other : Fin n} :
    other ∈ walk.openedBefore node ↔
      other ∈ walk.stack ∧ walk.rank other < walk.rank node := by
  have sorted := ordered.stack_sorted
  rw [← openedSince_append_openedBefore isOpen, List.pairwise_append] at sorted
  constructor
  · intro member
    refine ⟨openedSince_append_openedBefore isOpen ▸ List.mem_append_right _ member, ?_⟩
    exact sorted.2.2 node (List.mem_append_right _ List.mem_cons_self) other member
  · rintro ⟨member, below⟩
    rw [← openedSince_append_openedBefore isOpen] at member
    refine (List.mem_append.mp member).resolve_left fun inside => ?_
    exact absurd below (Nat.not_lt.mpr ((ordered.mem_openedSince isOpen).mp inside).2)

/-! ## The step -/

section Leave

variable {node : Fin n} {left : List (Fin n)} {outer : List (Fin n × List (Fin n))}

/-- Only the innermost node stops being active. -/
theorem mem_outer_of_ne
    (calls : walk.calls = (node, left) :: outer)
    {other : Fin n}
    (isActive : other ∈ walk.active)
    (different : other ≠ node) :
    other ∈ outer.map Prod.fst := by
  rw [active, calls] at isActive
  exact (List.mem_cons.mp isActive).resolve_left different

/-- The nodes that stay active are the active ones that rank below the innermost one. -/
theorem Ordered.mem_outer
    (ordered : Ordered graph walk)
    (calls : walk.calls = (node, left) :: outer)
    {other : Fin n} :
    other ∈ outer.map Prod.fst ↔ other ∈ walk.active ∧ walk.rank other < walk.rank node := by
  have sorted := ordered.active_sorted
  simp only [active, calls, List.map_cons, List.pairwise_cons] at sorted ⊢
  constructor
  · intro isOuter
    exact ⟨List.mem_cons_of_mem _ isOuter, sorted.1 other isOuter⟩
  · rintro ⟨isActive, below⟩
    refine (List.mem_cons.mp isActive).resolve_left fun equal => ?_
    exact absurd below (equal ▸ Nat.lt_irrefl _)

/-- No active node ranks above the innermost one. -/
theorem Ordered.rank_le_of_active
    (ordered : Ordered graph walk)
    (calls : walk.calls = (node, left) :: outer)
    {other : Fin n}
    (isActive : other ∈ walk.active) :
    walk.rank other ≤ walk.rank node := by
  by_cases equal : other = node
  · exact Nat.le_of_eq (congrArg walk.rank equal)
  · have isOuter := mem_outer_of_ne calls isActive equal
    exact Nat.le_of_lt ((ordered.mem_outer calls).mp isOuter).2

/-- Leaving a node follows no edge. -/
theorem Followed.of_leave
    (calls : walk.calls = (node, []) :: outer)
    (low : Vector Nat n)
    {source target : Fin n}
    (followed : Followed graph { walk with calls := outer, low } source target) :
    Followed graph walk source target := by
  obtain ⟨edge, notLeft⟩ := followed
  refine ⟨edge, ?_⟩
  rw [calls]
  intro call member isSource
  rcases List.mem_cons.mp member with rfl | isOuter
  · exact List.not_mem_nil
  · exact notLeft call isOuter isSource

/-- The innermost node is active. -/
theorem active_of_calls
    (calls : walk.calls = (node, []) :: outer) :
    node ∈ walk.active := by
  simp [active, calls]

/-- Leaving a node keeps the order. -/
theorem Ordered.leave
    (ordered : Ordered graph walk)
    (calls : walk.calls = (node, []) :: outer) :
    Ordered graph ({ walk with calls := outer }.passOn node) := by
  rw [passOn_eq]
  refine ordered.of_calls ?_ ?_
  · rw [active, calls]
    exact List.sublist_cons_self _ _
  · intro call member
    exact ordered.pending_edge (calls ▸ List.mem_cons_of_mem _ member)

/-- A node that reaches a lower one stays open when it is left. -/
theorem Connected.leave
    (connected : Connected graph walk)
    (ordered : Ordered graph walk)
    (calls : walk.calls = (node, []) :: outer)
    (reachesLower : walk.low.get node < walk.rank node) :
    Connected graph ({ walk with calls := outer }.passOn node) := by
  have isActive := active_of_calls calls
  obtain ⟨lowest, lowestOpen, lowestRank, toLowest⟩ := connected.low_reached isActive
  obtain ⟨ancestor, ancestorActive, ancestorBefore, toAncestor⟩ := connected.returns lowestOpen
  have ancestorBelow : walk.rank ancestor < walk.rank node := by omega
  have ancestorOuter := (ordered.mem_outer calls).mpr ⟨ancestorActive, ancestorBelow⟩
  obtain ⟨parent, pending, rest, outerCalls⟩ : ∃ parent pending rest, outer = (parent, pending) :: rest := by
    cases outer with
    | nil => simp at ancestorOuter
    | cons call rest => exact ⟨call.1, call.2, rest, rfl⟩
  have parentOuter : parent ∈ outer.map Prod.fst := by simp [outerCalls]
  have parentActive := ((ordered.mem_outer calls).mp parentOuter).1
  have parentBelow := ((ordered.mem_outer calls).mp parentOuter).2
  have stillOrdered := ordered.leave calls
  have lowEq := low_passOn { walk with calls := outer } node outerCalls
  have lowLe := low_passOn_le { walk with calls := outer } node
  rw [passOn_eq] at stillOrdered ⊢
  constructor
  case descends =>
    intro other goal otherOuter
    exact connected.descends ((ordered.mem_outer calls).mp otherOuter).1
  case returns =>
    intro other isOpen
    obtain ⟨witness, witnessActive, before, path⟩ := connected.returns isOpen
    by_cases equal : witness = node
    · -- The node that is left leads on to an active node below it.
      subst equal
      exact ⟨ancestor, ancestorOuter, Nat.le_trans (Nat.le_of_lt ancestorBelow) before,
        (path.trans toLowest).trans toAncestor⟩
    · exact ⟨witness, mem_outer_of_ne calls witnessActive equal, before, path⟩
  case low_le =>
    intro other otherOuter
    exact Nat.le_trans (lowLe other) (connected.low_le ((ordered.mem_outer calls).mp otherOuter).1)
  case low_reached =>
    intro other otherOuter
    obtain ⟨otherLowest, otherOpen, rankEq, path⟩ :=
      connected.low_reached ((ordered.mem_outer calls).mp otherOuter).1
    change ∃ reached ∈ walk.stack, walk.rank reached = _ ∧ _
    rw [lowEq]
    split
    · rename_i equal
      subst equal
      rcases Nat.le_total (walk.low.get other) (walk.low.get node) with below | above
      · rw [Nat.min_eq_left below]
        exact ⟨otherLowest, otherOpen, rankEq, path⟩
      · rw [Nat.min_eq_right above]
        have down := connected.descends parentActive (ordered.active_open isActive) (Nat.le_of_lt parentBelow)
        exact ⟨lowest, lowestOpen, lowestRank, down.trans toLowest⟩
    · exact ⟨otherLowest, otherOpen, rankEq, path⟩
  case low_bound =>
    intro source target other sourceOpen followed targetOpen otherOuter before
    obtain ⟨witness, witnessActive, between, bound⟩ :=
      connected.low_bound sourceOpen (followed.of_leave calls _) targetOpen
        ((ordered.mem_outer calls).mp otherOuter).1 before
    by_cases equal : witness = node
    · -- What the node that is left reaches, the node before it reaches too.
      subst equal
      refine ⟨parent, parentOuter, stillOrdered.rank_le_of_active outerCalls otherOuter, ?_⟩
      rw [lowEq, if_pos rfl]
      exact Nat.le_trans (Nat.min_le_right _ _) bound
    · exact ⟨witness, mem_outer_of_ne calls witnessActive equal, between, Nat.le_trans (lowLe witness) bound⟩

end Leave

end Walk
end Parley
