import Mathlib.Data.List.Nodup
import Parley.Proofs.Digraph.Paths
import Parley.Proofs.Digraph.WalkComponents

/-!
# The components and cycles that a walk finds

Every step of a walk keeps its invariant, and a whole walk discovers every node.  So its components divide the nodes by
mutual reachability, and it marks exactly the nodes that a path of one or more edges leads back to.
-/

namespace Parley
namespace Walk

variable {n : Nat} {graph : Adjacency n} {walk : Walk n}

/-- What holds of a walk before and after every step. -/
structure Invariant (graph : Adjacency n) (walk : Walk n) : Prop where
  ordered : Ordered graph walk
  connected : Connected graph walk
  explored : Explored graph walk
  settled : Settled graph walk

/-! ## One step -/

/-- A node that was just discovered explores nothing yet, and may be where a followed edge led. -/
theorem Explored.discover
    {node : Fin n}
    (explored : ∀ source ∈ walk.stack, ∀ target, Followed graph walk source target →
      walk.Discovered target ∨ target = node) :
    Explored graph (walk.discover graph node) := by
  intro source isOpen target followed
  obtain ⟨different, wasFollowed⟩ := followed.of_discover
  rw [discovered_discover]
  exact (explored source ((List.mem_cons.mp isOpen).resolve_left different) target wasFollowed).symm

/-- Following an edge keeps the invariant. -/
theorem Invariant.follow
    (invariant : Invariant graph walk)
    {node target : Fin n}
    {later : List (Fin n)}
    {outer : List (Fin n × List (Fin n))}
    (calls : walk.calls = (node, target :: later) :: outer) :
    Invariant graph ({ walk with calls := (node, later) :: outer }.follow graph node target) := by
  obtain ⟨ordered, connected, explored, settled⟩ := invariant
  have nodeActive : node ∈ walk.active := by simp [active, calls]
  have edge : graph.Edge node target :=
    ordered.pending_edge (calls ▸ List.mem_cons_self) target List.mem_cons_self
  have taken := ordered.take calls
  have followedCases : ∀ source ∈ walk.stack, ∀ goal,
      Followed graph { walk with calls := (node, later) :: outer } source goal →
        walk.Discovered goal ∨ goal = target := by
    intro source isOpen goal followed
    exact (followed.of_take calls).imp (explored source isOpen goal) And.right
  unfold Walk.follow
  split
  · rename_i isNew
    have notOpen := (ordered.not_open_of_new isNew).1
    refine ⟨(taken _).discover isNew, ?_, Explored.discover followedCases, settled.congr rfl rfl⟩
    refine (connected.take calls notOpen).discover (taken _) isNew ?_
    -- The node whose edge is followed is the innermost one, so all active nodes reach the target through it.
    intro ancestor isActive
    have wasActive : ancestor ∈ walk.active := active_take calls ▸ isActive
    have down := connected.descends wasActive (ordered.active_open nodeActive)
      (ordered.rank_le_of_active calls wasActive)
    exact down.tail edge
  · rename_i index indexEq
    change walk.index.get target = some index at indexEq
    obtain ⟨discovered, rankEq⟩ := index_eq_some_iff.mp indexEq
    have stillExplored : Explored graph { walk with calls := (node, later) :: outer } := by
      intro source isOpen goal followed
      rcases followedCases source isOpen goal followed with wasDiscovered | rfl
      · exact wasDiscovered
      · exact discovered
    split
    · rename_i isOpen
      have lowered := connected.take_lower ordered calls ((ordered.isOpen_iff target).mp isOpen)
      rw [rankEq] at lowered
      exact ⟨taken _, lowered, stillExplored, settled.congr rfl rfl⟩
    · rename_i notOpen
      have outside : target ∉ walk.stack := fun isOpen => notOpen ((ordered.isOpen_iff target).mpr isOpen)
      exact ⟨taken _, connected.take calls outside, stillExplored, settled.congr rfl rfl⟩

/-- Leaving a node keeps the invariant. -/
theorem Invariant.leave
    (invariant : Invariant graph walk)
    {node : Fin n}
    {outer : List (Fin n × List (Fin n))}
    (calls : walk.calls = (node, []) :: outer) :
    Invariant graph ({ walk with calls := outer }.leave graph node) := by
  obtain ⟨ordered, connected, explored, settled⟩ := invariant
  have isActive := active_of_calls calls
  have isOpen := ordered.active_open isActive
  have lowLe := connected.low_le isActive
  have indexEq := index_eq_some_iff.mpr ⟨ordered.discovered_iff.mpr (.inl isOpen), rfl⟩
  by_cases isRoot : walk.low.get node = walk.rank node
  · have unchanged := passOn_of_root connected ordered calls isRoot
    have completes : { walk with calls := outer }.leave graph node =
        { walk with calls := outer }.complete graph node := by
      unfold Walk.leave
      rw [unchanged]
      exact if_pos (indexEq.trans (congrArg some isRoot.symm))
    rw [completes]
    refine ⟨ordered.complete calls, connected.complete ordered calls isRoot, ?_,
      settled.complete connected ordered explored calls isRoot⟩
    intro source before target followed
    have sourceOpen := ((ordered.mem_openedBefore isOpen).mp before).1
    exact explored source sourceOpen target (Followed.of_leave calls walk.low followed)
  · have reachesLower : walk.low.get node < walk.rank node := Nat.lt_of_le_of_ne lowLe isRoot
    have stays : { walk with calls := outer }.leave graph node = { walk with calls := outer }.passOn node := by
      unfold Walk.leave
      apply if_neg
      rw [index_passOn, indexEq, Option.some.injEq]
      have informedLe := low_passOn_le { walk with calls := outer } node node
      change _ ≤ walk.low.get node at informedLe
      omega
    rw [stays]
    refine ⟨ordered.leave calls, connected.leave ordered calls reachesLower, ?_, ?_⟩
    · rw [passOn_eq]
      intro source sourceOpen target followed
      exact explored source sourceOpen target (followed.of_leave calls _)
    · rw [passOn_eq]
      exact settled.congr rfl rfl

/-- Every step keeps the invariant. -/
theorem Invariant.step (invariant : Invariant graph walk) : Invariant graph (walk.step graph) := by
  unfold Walk.step
  split
  · exact invariant
  · rename_i calls
    exact invariant.leave calls
  · rename_i calls
    exact invariant.follow calls

/-! ## The whole walk -/

/-- A walk that has not begun satisfies the invariant. -/
theorem Invariant.start (graph : Adjacency n) : Invariant graph Walk.start := by
  have undiscovered : ∀ node, ¬(Walk.start : Walk n).Discovered node := by
    intro node discovered
    exact discovered (by simp [Walk.start, Vector.get])
  refine ⟨?_, ?_, ?_, ?_⟩
  · constructor
    case rank_lt => exact fun discovered => absurd discovered (undiscovered _)
    case discovered_iff => exact fun {node} => iff_of_false (undiscovered node) (by simp [Closed, Walk.start])
    case isOpen_iff => exact fun node => by simp [Walk.start, Vector.get]
    all_goals simp [Walk.start, Closed, active]
  · constructor <;> simp [Walk.start, active]
  · intro source isOpen
    exact absurd isOpen List.not_mem_nil
  · constructor
    case cyclic_iff => exact fun node => by simp [Walk.start, Closed, Vector.get]
    all_goals simp [Walk.start, Closed]

/-- Running a walk keeps the invariant. -/
theorem Invariant.run (invariant : Invariant graph walk) : Invariant graph (walk.run graph) := by
  fun_induction Walk.run graph walk with
  | case1 => exact invariant
  | case2 walk _ inductionHypothesis => exact inductionHypothesis invariant.step

/-- A walk that was run has no active nodes. -/
theorem calls_run (graph : Adjacency n) (walk : Walk n) : (walk.run graph).calls = [] := by
  fun_induction Walk.run graph walk with
  | case1 walk finished => exact finished
  | case2 _ _ inductionHypothesis => exact inductionHypothesis

/-- A step forgets no discovered node. -/
theorem Discovered.step
    {node : Fin n}
    (discovered : walk.Discovered node) :
    (walk.step graph).Discovered node := by
  unfold Walk.step
  split
  · exact discovered
  · unfold Discovered
    rw [index_leave]
    exact discovered
  · unfold Walk.follow
    split
    · exact (discovered_discover ..).mpr (.inr discovered)
    · split <;> exact discovered

/-- Running a walk forgets no discovered node. -/
theorem Discovered.run
    {node : Fin n}
    (discovered : walk.Discovered node) :
    (walk.run graph).Discovered node := by
  fun_induction Walk.run graph walk with
  | case1 => exact discovered
  | case2 _ _ inductionHypothesis => exact inductionHypothesis discovered.step

/-- Between visits the invariant holds and no node is active. -/
structure Resting (graph : Adjacency n) (walk : Walk n) : Prop where
  invariant : Invariant graph walk
  calls_eq_nil : walk.calls = []

/-- A new node may be discovered where no node is active. -/
theorem Resting.discover
    (resting : Resting graph walk)
    {node : Fin n}
    (isNew : walk.index.get node = none) :
    Invariant graph (walk.discover graph node) := by
  obtain ⟨⟨ordered, connected, explored, settled⟩, calls⟩ := resting
  have noneActive : walk.active = [] := by simp [active, calls]
  refine ⟨ordered.discover isNew, connected.discover ordered isNew ?_, ?_, settled.congr rfl rfl⟩
  · simp [noneActive]
  · exact Explored.discover fun source isOpen target followed =>
      .inl (explored source isOpen target followed)

/-- A visit ends at rest, forgets no discovered node and discovers its own. -/
theorem Resting.visit
    (resting : Resting graph walk)
    (node : Fin n) :
    Resting graph (walk.visit graph node) ∧
      ∀ other, other = node ∨ walk.Discovered other → (walk.visit graph node).Discovered other := by
  unfold Walk.visit
  split
  · rename_i isNew
    refine ⟨⟨(resting.discover isNew).run, calls_run ..⟩, ?_⟩
    intro other known
    exact Discovered.run ((discovered_discover ..).mpr known)
  · rename_i indexEq
    refine ⟨resting, ?_⟩
    rintro other (rfl | discovered)
    · exact (index_eq_some_iff.mp indexEq).1
    · exact discovered

/-- Visits to some nodes end at rest and discover them all. -/
theorem Resting.visits
    (resting : Resting graph walk)
    (nodes : List (Fin n)) :
    Resting graph (nodes.foldl (Walk.visit graph) walk) ∧
      ∀ node, node ∈ nodes ∨ walk.Discovered node → (nodes.foldl (Walk.visit graph) walk).Discovered node := by
  induction nodes generalizing walk with
  | nil => exact ⟨resting, fun node => by simp⟩
  | cons first rest inductionHypothesis =>
      obtain ⟨stillResting, discovers⟩ := resting.visit first
      obtain ⟨atRest, all⟩ := inductionHypothesis stillResting
      refine ⟨atRest, fun node known => all node ?_⟩
      rw [List.mem_cons, or_assoc, or_left_comm] at known
      exact known.imp id (discovers node)

/-- At the end of a whole walk every node is in a component. -/
theorem whole_closed (graph : Adjacency n) :
    Settled graph (whole graph) ∧ ∀ node, (whole graph).Closed node := by
  obtain ⟨⟨invariant, calls⟩, discovers⟩ :=
    (Resting.mk (Invariant.start graph) rfl).visits (List.finRange n)
  refine ⟨invariant.settled, fun node => ?_⟩
  have discovered := discovers node (.inl (List.mem_finRange node))
  refine (invariant.ordered.discovered_iff.mp discovered).resolve_left ?_
  rw [invariant.connected.stack_eq_nil calls]
  exact List.not_mem_nil

/-- The marked nodes are those that lie on a cycle. -/
theorem cyclic_whole (graph : Adjacency n) (node : Fin n) :
    (whole graph).cyclic.get node = true ↔ Relation.TransGen graph.Edge node node := by
  obtain ⟨settled, closed⟩ := whole_closed graph
  rw [settled.cyclic_iff]
  exact and_iff_right (closed node)

end Walk

/-! ## Graphs of named nodes -/

namespace Digraph

variable {α : Type} [DecidableEq α] {graph : Digraph α}

/-- Numbers stand for the nodes with the same edges. -/
theorem adjacency_edge (source target : Fin graph.nodes.length) :
    graph.adjacency.Edge source target ↔ graph.Edge (graph.nodes.get source) (graph.nodes.get target) := by
  have row : graph.adjacency.get source =
      (graph.targets (graph.nodes.get source)).filterMap graph.nodes.finIdxOf? :=
    Vector.getElem_ofFn source.isLt
  have number : ∀ node, graph.nodes.finIdxOf? node = some target ↔ node = graph.nodes.get target := by
    intro node
    rw [List.finIdxOf?_eq_some_iff]
    constructor
    · exact fun found => found.1.symm
    · rintro rfl
      refine ⟨rfl, fun earlier before equal => ?_⟩
      exact absurd (graph.distinct.get_inj_iff.mp equal) (Fin.ne_of_lt before)
  unfold Adjacency.Edge Edge
  rw [row, List.mem_filterMap]
  simp only [number, List.get_mem, true_and, and_true, exists_eq_right]

/-- Numbers stand for the nodes with the same paths. -/
theorem adjacency_path
    {source : Fin graph.nodes.length}
    {goal : α}
    (path : Relation.TransGen graph.Edge (graph.nodes.get source) goal) :
    ∃ target, graph.nodes.get target = goal ∧ Relation.TransGen graph.adjacency.Edge source target := by
  induction path with
  | single edge =>
      obtain ⟨target, rfl⟩ := List.get_of_mem edge.2.2
      exact ⟨target, rfl, .single ((adjacency_edge ..).mpr edge)⟩
  | tail _ edge inductionHypothesis =>
      obtain ⟨middle, rfl, numbered⟩ := inductionHypothesis
      obtain ⟨target, rfl⟩ := List.get_of_mem edge.2.2
      exact ⟨target, rfl, numbered.tail ((adjacency_edge ..).mpr edge)⟩

/-- The looping nodes are those that a path of one or more edges leads back to. -/
theorem mem_looping {node : α} :
    node ∈ graph.looping ↔ Relation.TransGen graph.Edge node node := by
  simp only [looping, List.mem_map, List.mem_filter, List.mem_finRange, true_and, Walk.cyclic_whole]
  constructor
  · rintro ⟨number, cycle, rfl⟩
    exact cycle.lift graph.nodes.get fun _ _ edge => (adjacency_edge ..).mp edge
  · intro cycle
    obtain ⟨_, edge, _⟩ := Relation.TransGen.head'_iff.mp cycle
    obtain ⟨number, rfl⟩ := List.get_of_mem edge.1
    obtain ⟨target, same, numbered⟩ := adjacency_path cycle
    rw [graph.distinct.get_inj_iff.mp same] at numbered
    exact ⟨number, numbered, rfl⟩

/-! ## The part of a graph that is reached -/

/-- From a reached node on, a part of a graph that holds all reached nodes has the paths of the whole graph. -/
theorem transGen_restrict_iff
    {roots : List α}
    {source target : α}
    (reached : graph.Reached roots source) :
    Relation.TransGen (graph.restrict (graph.reachable roots)).Edge source target ↔
      Relation.TransGen graph.Edge source target := by
  have edge_iff : ∀ {left right}, graph.Reached roots left →
      ((graph.restrict (graph.reachable roots)).Edge left right ↔ graph.Edge left right) := by
    intro left right leftReached
    simp only [Edge, restrict, List.mem_filter, List.contains_eq_mem, decide_eq_true_eq, mem_reachable]
    constructor
    · rintro ⟨⟨isNode, _⟩, isTarget, targetNode, _⟩
      exact ⟨isNode, isTarget, targetNode⟩
    · intro edge
      obtain ⟨root, isRoot, rootNode, path⟩ := leftReached
      exact ⟨⟨edge.1, root, isRoot, rootNode, path⟩, edge.2.1, edge.2.2,
        root, isRoot, rootNode, path.tail edge⟩
  constructor
  · intro path
    exact path.lift id fun left right edge =>
      (edge_iff (mem_reachable.mp (by simpa using (List.mem_filter.mp edge.1).2))).mp edge
  · intro path
    induction path with
    | single edge => exact .single ((edge_iff reached).mpr edge)
    | tail path edge inductionHypothesis =>
        obtain ⟨root, isRoot, rootNode, before⟩ := reached
        exact inductionHypothesis.tail
          ((edge_iff ⟨root, isRoot, rootNode, before.trans path.to_reflTransGen⟩).mpr edge)

end Digraph
end Parley
