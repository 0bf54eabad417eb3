import Parley.Proofs.Digraph.WalkOrder

/-!
# Paths between the open nodes of a walk

An active node reaches every node that was opened after it, and every open node reaches an active node that was opened
before it.  How low an active node is known to reach accounts for all edges that were followed from it and from the
nodes that were opened after it.
-/

namespace Parley
namespace Walk

variable {n : Nat} {graph : Adjacency n} {walk : Walk n}

/-- Open nodes are connected through the active ones. -/
structure Connected (graph : Adjacency n) (walk : Walk n) : Prop where
  descends : ∀ {ancestor node}, ancestor ∈ walk.active → node ∈ walk.stack →
    walk.rank ancestor ≤ walk.rank node → graph.Reaches ancestor node
  returns : ∀ {node}, node ∈ walk.stack →
    ∃ ancestor ∈ walk.active, walk.rank ancestor ≤ walk.rank node ∧ graph.Reaches node ancestor
  low_le : ∀ {node}, node ∈ walk.active → walk.low.get node ≤ walk.rank node
  low_reached : ∀ {node}, node ∈ walk.active →
    ∃ lowest ∈ walk.stack, walk.rank lowest = walk.low.get node ∧ graph.Reaches node lowest
  low_bound : ∀ {source target ancestor}, source ∈ walk.stack → Followed graph walk source target →
    target ∈ walk.stack → ancestor ∈ walk.active → walk.rank ancestor ≤ walk.rank source →
    ∃ witness ∈ walk.active, walk.rank ancestor ≤ walk.rank witness ∧ walk.low.get witness ≤ walk.rank target

/-- Without active nodes no node is open. -/
theorem Connected.stack_eq_nil
    (connected : Connected graph walk)
    (finished : walk.calls = []) :
    walk.stack = [] := by
  apply List.eq_nil_iff_forall_not_mem.mpr
  intro node isOpen
  obtain ⟨ancestor, isActive, _⟩ := connected.returns isOpen
  simp [active, finished] at isActive

/-- A node that all active nodes reach may be discovered. -/
theorem Connected.discover
    (connected : Connected graph walk)
    (ordered : Ordered graph walk)
    {node : Fin n}
    (isNew : walk.index.get node = none)
    (arrives : ∀ ancestor ∈ walk.active, graph.Reaches ancestor node) :
    Connected graph (walk.discover graph node) := by
  have notOpen := (ordered.not_open_of_new isNew).1
  have sameRank : ∀ other ∈ walk.stack, (walk.discover graph node).rank other = walk.rank other :=
    fun _ => ordered.rank_discover_of_open isNew
  have sameLow : ∀ other ∈ walk.active, (walk.discover graph node).low.get other = walk.low.get other := by
    intro other isActive
    rw [low_discover, if_neg]
    rintro rfl
    exact notOpen (ordered.active_open isActive)
  have ownRank := rank_discover_self graph walk node
  have ownLow : (walk.discover graph node).low.get node = walk.count := by
    rw [low_discover, if_pos rfl]
  constructor
  case descends =>
    intro ancestor other isActive isOpen before
    rcases List.mem_cons.mp isOpen with rfl | wasOpen
    · rcases List.mem_cons.mp isActive with rfl | wasActive
      · exact .refl
      · exact arrives ancestor wasActive
    · rcases List.mem_cons.mp isActive with rfl | wasActive
      · rw [ownRank, sameRank other wasOpen] at before
        exact absurd (ordered.rank_lt_of_open wasOpen) (Nat.not_lt.mpr before)
      · rw [sameRank other wasOpen, sameRank ancestor (ordered.active_open wasActive)] at before
        exact connected.descends wasActive wasOpen before
  case returns =>
    intro other isOpen
    rcases List.mem_cons.mp isOpen with rfl | wasOpen
    · exact ⟨other, List.mem_cons_self, Nat.le_refl _, .refl⟩
    · obtain ⟨ancestor, wasActive, before, path⟩ := connected.returns wasOpen
      refine ⟨ancestor, List.mem_cons_of_mem _ wasActive, ?_, path⟩
      rwa [sameRank other wasOpen, sameRank ancestor (ordered.active_open wasActive)]
  case low_le =>
    intro other isActive
    rcases List.mem_cons.mp isActive with rfl | wasActive
    · exact Nat.le_of_eq (ownLow.trans ownRank.symm)
    · rw [sameLow other wasActive, sameRank other (ordered.active_open wasActive)]
      exact connected.low_le wasActive
  case low_reached =>
    intro other isActive
    rcases List.mem_cons.mp isActive with rfl | wasActive
    · exact ⟨other, List.mem_cons_self, ownRank.trans ownLow.symm, .refl⟩
    · obtain ⟨lowest, wasOpen, rankEq, path⟩ := connected.low_reached wasActive
      refine ⟨lowest, List.mem_cons_of_mem _ wasOpen, ?_, path⟩
      rw [sameRank lowest wasOpen, sameLow other wasActive, rankEq]
  case low_bound =>
    intro source target ancestor sourceOpen followed targetOpen isActive before
    obtain ⟨different, wasFollowed⟩ := followed.of_discover
    have sourceWasOpen := (List.mem_cons.mp sourceOpen).resolve_left different
    rw [sameRank source sourceWasOpen] at before
    rcases List.mem_cons.mp isActive with rfl | wasActive
    · rw [ownRank] at before
      exact absurd (ordered.rank_lt_of_open sourceWasOpen) (Nat.not_lt.mpr before)
    have ancestorWasOpen := ordered.active_open wasActive
    rw [sameRank ancestor ancestorWasOpen] at before ⊢
    rcases List.mem_cons.mp targetOpen with rfl | targetWasOpen
    · -- The new node ranks above everything that an active node is known to reach.
      refine ⟨ancestor, List.mem_cons_of_mem _ wasActive, Nat.le_of_eq (sameRank ancestor ancestorWasOpen).symm, ?_⟩
      rw [sameLow ancestor wasActive, ownRank]
      exact Nat.le_trans (connected.low_le wasActive) (Nat.le_of_lt (ordered.rank_lt_of_open ancestorWasOpen))
    · obtain ⟨witness, witnessActive, between, bound⟩ :=
        connected.low_bound sourceWasOpen wasFollowed targetWasOpen wasActive before
      refine ⟨witness, List.mem_cons_of_mem _ witnessActive, ?_, ?_⟩
      · rwa [sameRank witness (ordered.active_open witnessActive)]
      · rwa [sameLow witness witnessActive, sameRank target targetWasOpen]

/-! ## Following an edge -/

section Follow

variable {node target : Fin n} {later : List (Fin n)} {outer : List (Fin n × List (Fin n))}

/-- Only the edge that is taken off the list is new among the followed ones. -/
theorem Followed.of_take
    (calls : walk.calls = (node, target :: later) :: outer)
    {source goal : Fin n}
    (followed : Followed graph { walk with calls := (node, later) :: outer } source goal) :
    Followed graph walk source goal ∨ source = node ∧ goal = target := by
  obtain ⟨edge, notLeft⟩ := followed
  by_cases same : source = node ∧ goal = target
  · exact .inr same
  · refine .inl ⟨edge, ?_⟩
    rw [calls]
    intro call member isSource
    rcases List.mem_cons.mp member with rfl | isOuter
    · have notLater := notLeft (node, later) List.mem_cons_self isSource
      rw [List.mem_cons, not_or]
      exact ⟨fun isTarget => same ⟨isSource.symm, isTarget⟩, notLater⟩
    · exact notLeft call (List.mem_cons_of_mem _ isOuter) isSource

/-- Taking an edge off the list leaves the active nodes as they are. -/
theorem active_take
    (calls : walk.calls = (node, target :: later) :: outer) :
    { walk with calls := (node, later) :: outer }.active = walk.active := by
  simp [active, calls]

/-- Taking an edge off the list keeps the order. -/
theorem Ordered.take
    (ordered : Ordered graph walk)
    (calls : walk.calls = (node, target :: later) :: outer)
    (low : Vector Nat n) :
    Ordered graph { walk with calls := (node, later) :: outer, low } := by
  refine ordered.of_calls ?_ ?_
  · rw [active, calls]
    exact List.Sublist.refl _
  · intro call member goal isGoal
    rcases List.mem_cons.mp member with rfl | isOuter
    · have isCall : (node, target :: later) ∈ walk.calls := calls ▸ List.mem_cons_self
      exact ordered.pending_edge isCall goal (List.mem_cons_of_mem _ isGoal)
    · exact ordered.pending_edge (calls ▸ List.mem_cons_of_mem _ isOuter) goal isGoal

/-- An edge to a node that is not open changes nothing between open nodes. -/
theorem Connected.take
    (connected : Connected graph walk)
    (calls : walk.calls = (node, target :: later) :: outer)
    (notOpen : target ∉ walk.stack) :
    Connected graph { walk with calls := (node, later) :: outer } := by
  have sameActive := active_take calls
  constructor
  case descends => exact fun isActive => connected.descends (sameActive ▸ isActive)
  case returns => exact fun isOpen => sameActive ▸ connected.returns isOpen
  case low_le => exact fun isActive => connected.low_le (sameActive ▸ isActive)
  case low_reached => exact fun isActive => connected.low_reached (sameActive ▸ isActive)
  case low_bound =>
    intro source goal ancestor sourceOpen followed goalOpen isActive before
    rw [sameActive] at isActive ⊢
    rcases followed.of_take calls with wasFollowed | ⟨_, rfl⟩
    · exact connected.low_bound sourceOpen wasFollowed goalOpen isActive before
    · exact absurd goalOpen notOpen

/-- An edge to an open node lowers what the active node reaches. -/
theorem Connected.take_lower
    (connected : Connected graph walk)
    (ordered : Ordered graph walk)
    (calls : walk.calls = (node, target :: later) :: outer)
    (isOpen : target ∈ walk.stack) :
    Connected graph ({ walk with calls := (node, later) :: outer }.lower node (walk.rank target)) := by
  have sameActive :
      ({ walk with calls := (node, later) :: outer }.lower node (walk.rank target)).active = walk.active :=
    active_take calls
  have edge : graph.Edge node target :=
    ordered.pending_edge (calls ▸ List.mem_cons_self) target List.mem_cons_self
  have lowLe : ∀ other,
      ({ walk with calls := (node, later) :: outer }.lower node (walk.rank target)).low.get other ≤
        walk.low.get other := by
    intro other
    rw [low_lower]
    split
    · rename_i equal
      exact equal ▸ Nat.min_le_left _ _
    · exact Nat.le_refl _
  constructor
  case descends => exact fun isActive => connected.descends (sameActive ▸ isActive)
  case returns => exact fun isOpen => sameActive ▸ connected.returns isOpen
  case low_le => exact fun isActive => Nat.le_trans (lowLe _) (connected.low_le (sameActive ▸ isActive))
  case low_reached =>
    intro other isActive
    rw [sameActive] at isActive
    obtain ⟨lowest, lowestOpen, rankEq, path⟩ := connected.low_reached isActive
    rw [low_lower]
    split
    · rename_i equal
      subst equal
      rcases Nat.le_total (walk.low.get other) (walk.rank target) with below | above
      · rw [Nat.min_eq_left below]
        exact ⟨lowest, lowestOpen, rankEq, path⟩
      · rw [Nat.min_eq_right above]
        exact ⟨target, isOpen, rfl, .single edge⟩
    · exact ⟨lowest, lowestOpen, rankEq, path⟩
  case low_bound =>
    intro source goal ancestor sourceOpen followed goalOpen isActive before
    rw [sameActive] at isActive ⊢
    rcases Followed.of_take calls followed with wasFollowed | ⟨rfl, rfl⟩
    · obtain ⟨witness, witnessActive, between, bound⟩ :=
        connected.low_bound sourceOpen wasFollowed goalOpen isActive before
      exact ⟨witness, witnessActive, between, Nat.le_trans (lowLe witness) bound⟩
    · refine ⟨source, ?_, before, ?_⟩
      · simp [active, calls]
      · rw [low_lower, if_pos rfl]
        exact Nat.min_le_right _ _

end Follow

end Walk
end Parley
