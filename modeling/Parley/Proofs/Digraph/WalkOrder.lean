import Mathlib.Logic.Relation
import Parley.Digraph.Walk

/-!
# The order of a depth-first walk

The predicates in this module describe how far a walk has come.  Open nodes stand on the stack in the order of their
discovery, and the nodes whose edges are being followed are among them.  Every step of a walk keeps this order.
-/

namespace Parley

/-- An edge leads from one node to another. -/
def Adjacency.Edge
    (graph : Adjacency n)
    (source target : Fin n) : Prop :=
  target ∈ graph.get source

/-- A path of any length leads from one node to another. -/
def Adjacency.Reaches (graph : Adjacency n) : Fin n → Fin n → Prop :=
  Relation.ReflTransGen graph.Edge

namespace Walk

/-- A node was discovered. -/
def Discovered (walk : Walk n) (node : Fin n) : Prop :=
  walk.index.get node ≠ none

/-- How many nodes were discovered before a discovered one. -/
def rank (walk : Walk n) (node : Fin n) : Nat :=
  (walk.index.get node).getD 0

/-- Exactly the discovered nodes have an index, which is their rank. -/
theorem index_eq_some_iff
    {walk : Walk n}
    {node : Fin n}
    {index : Nat} :
    walk.index.get node = some index ↔ walk.Discovered node ∧ walk.rank node = index := by
  unfold Discovered rank
  cases walk.index.get node with
  | none => simp
  | some _ => simp

/-- The nodes whose edges are being followed, the innermost one first. -/
def active (walk : Walk n) : List (Fin n) :=
  walk.calls.map Prod.fst

/-- A node belongs to a complete component. -/
def Closed (walk : Walk n) (node : Fin n) : Prop :=
  node ∈ walk.components.flatten

/-- An edge of the graph is not left to be followed. -/
def Followed
    (graph : Adjacency n)
    (walk : Walk n)
    (source target : Fin n) : Prop :=
  graph.Edge source target ∧
    ∀ call ∈ walk.calls, call.1 = source → target ∉ call.2

/-- The walk keeps its books: indices are in use up to the count, every discovered node is either open or closed, and
stack and active nodes are sorted by discovery. -/
structure Ordered (graph : Adjacency n) (walk : Walk n) : Prop where
  rank_lt : ∀ {node}, walk.Discovered node → walk.rank node < walk.count
  discovered_iff : ∀ {node}, walk.Discovered node ↔ node ∈ walk.stack ∨ walk.Closed node
  closed_not_open : ∀ {node}, walk.Closed node → node ∉ walk.stack
  isOpen_iff : ∀ node, walk.isOpen.get node = true ↔ node ∈ walk.stack
  stack_sorted : walk.stack.Pairwise fun later earlier => walk.rank earlier < walk.rank later
  active_sorted : walk.active.Pairwise fun inner outer => walk.rank outer < walk.rank inner
  active_open : ∀ {node}, node ∈ walk.active → node ∈ walk.stack
  pending_edge : ∀ {call}, call ∈ walk.calls → ∀ target ∈ call.2, graph.Edge call.1 target

/-! ## Fields after one operation -/

section Fields

variable (graph : Adjacency n) (walk : Walk n) (node other : Fin n)

theorem index_discover :
    (walk.discover graph node).index.get other =
      if other = node then some walk.count else walk.index.get other :=
  get_set ..

theorem rank_discover :
    (walk.discover graph node).rank other =
      if other = node then walk.count else walk.rank other := by
  unfold rank
  rw [index_discover]
  split <;> rfl

theorem rank_discover_self :
    (walk.discover graph node).rank node = walk.count := by
  rw [rank_discover, if_pos rfl]

theorem discovered_discover :
    (walk.discover graph node).Discovered other ↔ other = node ∨ walk.Discovered other := by
  unfold Discovered
  rw [index_discover]
  split <;> simp_all

theorem low_discover :
    (walk.discover graph node).low.get other =
      if other = node then walk.count else walk.low.get other :=
  get_set ..

theorem low_lower (index : Nat) :
    (walk.lower node index).low.get other =
      if other = node then min (walk.low.get node) index else walk.low.get other :=
  get_set ..

@[simp] theorem active_discover :
    (walk.discover graph node).active = node :: walk.active := rfl

@[simp] theorem stack_discover :
    (walk.discover graph node).stack = node :: walk.stack := rfl

theorem get_setAll_iff (flags : Vector Bool n) (value : Bool) (nodes : List (Fin n)) :
    (setAll flags value nodes).get other = true ↔
      (other ∈ nodes ∧ value = true) ∨ (other ∉ nodes ∧ flags.get other = true) := by
  unfold setAll
  induction nodes generalizing flags with
  | nil => simp
  | cons first rest inductionHypothesis =>
      rw [List.foldl_cons, inductionHypothesis, get_set]
      by_cases equal : other = first
      · subst equal
        by_cases inRest : other ∈ rest <;> simp [inRest]
      · simp [equal]

end Fields

variable {graph : Adjacency n} {walk : Walk n}

/-- An undiscovered node is neither open nor closed. -/
theorem Ordered.not_open_of_new
    (ordered : Ordered graph walk)
    {node : Fin n}
    (isNew : walk.index.get node = none) :
    node ∉ walk.stack ∧ ¬walk.Closed node := by
  have undiscovered : ¬walk.Discovered node := fun discovered => discovered isNew
  rw [ordered.discovered_iff, not_or] at undiscovered
  exact undiscovered

/-- The rank of an open node is below the count. -/
theorem Ordered.rank_lt_of_open
    (ordered : Ordered graph walk)
    {node : Fin n}
    (isOpen : node ∈ walk.stack) :
    walk.rank node < walk.count :=
  ordered.rank_lt (ordered.discovered_iff.mpr (.inl isOpen))

/-- A discovery changes the rank of no open node. -/
theorem Ordered.rank_discover_of_open
    (ordered : Ordered graph walk)
    {node other : Fin n}
    (isNew : walk.index.get node = none)
    (isOpen : other ∈ walk.stack) :
    (walk.discover graph node).rank other = walk.rank other := by
  rw [rank_discover, if_neg]
  rintro rfl
  exact (ordered.not_open_of_new isNew).1 isOpen

/-- Nothing has been followed from a node that was just discovered, and nothing new from any other. -/
theorem Followed.of_discover
    {node source target : Fin n}
    (followed : Followed graph (walk.discover graph node) source target) :
    source ≠ node ∧ Followed graph walk source target := by
  obtain ⟨edge, notLeft⟩ := followed
  constructor
  · rintro rfl
    exact notLeft (source, graph.get source) List.mem_cons_self rfl edge
  · exact ⟨edge, fun call member => notLeft call (List.mem_cons_of_mem _ member)⟩

/-- Discovering a new node keeps the order. -/
theorem Ordered.discover
    (ordered : Ordered graph walk)
    {node : Fin n}
    (isNew : walk.index.get node = none) :
    Ordered graph (walk.discover graph node) := by
  obtain ⟨notOpen, notClosed⟩ := ordered.not_open_of_new isNew
  have sameRank : ∀ other ∈ walk.stack, (walk.discover graph node).rank other = walk.rank other :=
    fun _ => ordered.rank_discover_of_open isNew
  constructor
  case rank_lt =>
    intro other discovered
    rw [rank_discover]
    split
    · exact Nat.lt_succ_self _
    · rename_i different
      rw [discovered_discover] at discovered
      exact Nat.lt_succ_of_lt (ordered.rank_lt (discovered.resolve_left different))
  case discovered_iff =>
    intro other
    rw [discovered_discover, ordered.discovered_iff, stack_discover, List.mem_cons, or_assoc]
    rfl
  case closed_not_open =>
    intro other closed
    rw [stack_discover, List.mem_cons, not_or]
    refine ⟨?_, ordered.closed_not_open closed⟩
    rintro rfl
    exact notClosed closed
  case isOpen_iff =>
    intro other
    change (walk.isOpen.set node.val true node.isLt).get other = true ↔ _
    rw [get_set, stack_discover, List.mem_cons]
    split
    · simp_all
    · simp_all [ordered.isOpen_iff]
  case stack_sorted =>
    refine List.pairwise_cons.mpr ⟨?_, ?_⟩
    · intro other isOpen
      rw [sameRank other isOpen, rank_discover_self]
      exact ordered.rank_lt_of_open isOpen
    · apply ordered.stack_sorted.imp_of_mem
      intro later earlier laterOpen earlierOpen before
      rwa [sameRank later laterOpen, sameRank earlier earlierOpen]
  case active_sorted =>
    refine List.pairwise_cons.mpr ⟨?_, ?_⟩
    · intro other isActive
      rw [sameRank other (ordered.active_open isActive), rank_discover_self]
      exact ordered.rank_lt_of_open (ordered.active_open isActive)
    · apply ordered.active_sorted.imp_of_mem
      intro inner outer innerActive outerActive before
      rwa [sameRank inner (ordered.active_open innerActive), sameRank outer (ordered.active_open outerActive)]
  case active_open =>
    intro other isActive
    rw [active_discover, List.mem_cons] at isActive
    rw [stack_discover, List.mem_cons]
    exact isActive.imp id ordered.active_open
  case pending_edge =>
    intro call member target isTarget
    rcases List.mem_cons.mp member with rfl | earlier
    · exact isTarget
    · exact ordered.pending_edge earlier target isTarget

/-- The order depends neither on how low nodes reach nor on edges that are no longer left. -/
theorem Ordered.of_calls
    (ordered : Ordered graph walk)
    {calls : List (Fin n × List (Fin n))}
    {low : Vector Nat n}
    (activeSublist : (calls.map Prod.fst).Sublist walk.active)
    (pendingEdge : ∀ {call}, call ∈ calls → ∀ target ∈ call.2, graph.Edge call.1 target) :
    Ordered graph { walk with calls, low } where
  rank_lt := ordered.rank_lt
  discovered_iff := ordered.discovered_iff
  closed_not_open := ordered.closed_not_open
  isOpen_iff := ordered.isOpen_iff
  stack_sorted := ordered.stack_sorted
  active_sorted := ordered.active_sorted.sublist activeSublist
  active_open := fun isActive => ordered.active_open (activeSublist.subset isActive)
  pending_edge := pendingEdge

end Walk
end Parley
