import Parley.Digraph

/-!
# Components and cycles of finite directed graphs

A walk goes through a graph depth first and follows every edge once.  A node that it discovers stays open until the
component that the node belongs to is complete: the nodes that can be reached from it and lead back to it.  A node lies
on a cycle if its component has another node or if it has an edge to itself.
-/

namespace Parley

/-- A graph on the numbers below a bound: where the edges of every node lead. -/
abbrev Adjacency (n : Nat) := Vector (List (Fin n)) n

/-- How far a walk through a graph has come. -/
structure Walk (n : Nat) where
  /-- The number of nodes that were discovered earlier, for every discovered node. -/
  index : Vector (Option Nat) n
  /-- An index, as low as is known, of an open node that can be reached. -/
  low : Vector Nat n
  /-- Whether a node is open. -/
  isOpen : Vector Bool n
  /-- The open nodes, the last discovered one first. -/
  stack : List (Fin n)
  /-- The nodes whose edges are being followed, the innermost one first, with the edges that are left. -/
  calls : List (Fin n × List (Fin n))
  /-- The number of discovered nodes. -/
  count : Nat
  /-- The complete components, the last one first. -/
  components : List (List (Fin n))
  /-- Whether a node of a complete component lies on a cycle. -/
  cyclic : Vector Bool n

namespace Walk

variable {n : Nat}

/-- The flags with one value at all the given nodes. -/
def setAll (flags : Vector Bool n) (value : Bool) (nodes : List (Fin n)) : Vector Bool n :=
  nodes.foldl (fun flags node => flags.set node.val value node.isLt) flags

/-! ## One step -/

/-- Open a node, and be about to follow its edges. -/
def discover (graph : Adjacency n) (walk : Walk n) (node : Fin n) : Walk n :=
  { walk with
    index := walk.index.set node.val (some walk.count) node.isLt
    low := walk.low.set node.val walk.count node.isLt
    isOpen := walk.isOpen.set node.val true node.isLt
    stack := node :: walk.stack
    calls := (node, graph.get node) :: walk.calls
    count := walk.count + 1 }

/-- Note that an open node of this index can be reached from a node. -/
def lower (walk : Walk n) (node : Fin n) (index : Nat) : Walk n :=
  { walk with low := walk.low.set node.val (min (walk.low.get node) index) node.isLt }

/-- Follow an edge. -/
def follow (graph : Adjacency n) (walk : Walk n) (source target : Fin n) : Walk n :=
  match walk.index.get target with
  | none => walk.discover graph target
  | some index => if walk.isOpen.get target then walk.lower source index else walk

/-- Whatever can be reached from a node can be reached from the one whose edge led to it. -/
def passOn (walk : Walk n) (node : Fin n) : Walk n :=
  match walk.calls with
  | [] => walk
  | (parent, _) :: _ => walk.lower parent (walk.low.get node)

/-- A node and the open nodes that were discovered after it. -/
def openedSince (walk : Walk n) (root : Fin n) : List (Fin n) := walk.stack.takeWhile (· != root) ++ [root]

/-- The open nodes that were discovered before a node. -/
def openedBefore (walk : Walk n) (root : Fin n) : List (Fin n) := (walk.stack.dropWhile (· != root)).tail

/-- Make a component of the open nodes that were discovered from a node on. -/
def complete (graph : Adjacency n) (walk : Walk n) (root : Fin n) : Walk n :=
  let component := walk.openedSince root
  { walk with
    isOpen := setAll walk.isOpen false component
    stack := walk.openedBefore root
    components := component :: walk.components
    cyclic :=
      if 1 < component.length || (graph.get root).contains root then setAll walk.cyclic true component
      else walk.cyclic }

/-- Leave a node when all its edges are followed.  If nothing lower can be reached, its component is complete. -/
def leave (graph : Adjacency n) (walk : Walk n) (node : Fin n) : Walk n :=
  let informed := walk.passOn node
  if informed.index.get node = some (informed.low.get node) then informed.complete graph node else informed

/-- Go on at the innermost node. -/
def step (graph : Adjacency n) (walk : Walk n) : Walk n :=
  match walk.calls with
  | [] => walk
  | (node, []) :: outer => { walk with calls := outer }.leave graph node
  | (node, target :: later) :: outer => { walk with calls := (node, later) :: outer }.follow graph node target

/-! ## The whole walk -/

/-- The number of nodes that are not discovered. -/
def undiscovered (walk : Walk n) : Nat := (List.finRange n).countP (fun node => (walk.index.get node).isNone)

/-- The number of edges that are left, and of nodes to leave. -/
def pending : List (Fin n × List (Fin n)) → Nat
  | [] => 0
  | (_, later) :: outer => later.length + 1 + pending outer

@[simp] theorem index_passOn (walk : Walk n) (node : Fin n) : (walk.passOn node).index = walk.index := by
  unfold passOn
  split <;> rfl

@[simp] theorem calls_passOn (walk : Walk n) (node : Fin n) : (walk.passOn node).calls = walk.calls := by
  unfold passOn
  split <;> simp_all [lower]

@[simp] theorem index_leave (graph : Adjacency n) (walk : Walk n) (node : Fin n) :
    (walk.leave graph node).index = walk.index := by
  unfold leave
  dsimp only
  split <;> simp [complete]

@[simp] theorem calls_leave (graph : Adjacency n) (walk : Walk n) (node : Fin n) :
    (walk.leave graph node).calls = walk.calls := by
  unfold leave
  dsimp only
  split <;> simp [complete]

theorem get_set {α : Type} (values : Vector α n) (node other : Fin n) (value : α) :
    (values.set node.val value node.isLt).get other = if other = node then value else values.get other := by
  change (values.set node.val value node.isLt)[other.val] = if other = node then value else values[other.val]
  simp only [Vector.getElem_set, Fin.ext_iff, eq_comm]

theorem undiscovered_discover_lt (graph : Adjacency n) (walk : Walk n) {node : Fin n}
    (isNew : walk.index.get node = none) :
    (walk.discover graph node).undiscovered < walk.undiscovered := by
  unfold undiscovered
  have shrinks : ∀ other, ((walk.discover graph node).index.get other).isNone = true →
      (walk.index.get other).isNone = true := by
    intro other
    simp only [discover, get_set]
    split
    · simp
    · exact id
  obtain ⟨front, behind, split⟩ := List.append_of_mem (List.mem_finRange node)
  rw [split, List.countP_append, List.countP_append, List.countP_cons_of_neg (by simp [discover, get_set]),
    List.countP_cons_of_pos (by simp [isNew])]
  have inFront := List.countP_mono_left (l := front) fun other _ => shrinks other
  have inBehind := List.countP_mono_left (l := behind) fun other _ => shrinks other
  omega

theorem step_lt (graph : Adjacency n) (walk : Walk n) (unfinished : walk.calls ≠ []) :
    Prod.Lex (· < ·) (· < ·) ((walk.step graph).undiscovered, pending (walk.step graph).calls)
      (walk.undiscovered, pending walk.calls) := by
  unfold step
  split
  · contradiction
  · rename_i node outer calls
    have same : ({ walk with calls := outer }.leave graph node).undiscovered = walk.undiscovered := by
      simp [undiscovered]
    rw [same, calls_leave, calls]
    exact Prod.Lex.right _ (by simp [pending])
  · rename_i node target later outer calls
    unfold follow
    dsimp only
    split
    · rename_i isNew
      exact Prod.Lex.left _ _ (undiscovered_discover_lt graph _ isNew)
    · rw [calls]
      split
      · exact Prod.Lex.right _ (by simp [pending, lower])
      · exact Prod.Lex.right _ (by simp [pending])

/-- Go on until all edges are followed. -/
def run (graph : Adjacency n) (walk : Walk n) : Walk n :=
  if walk.calls = [] then walk else (walk.step graph).run graph
termination_by (walk.undiscovered, pending walk.calls)
decreasing_by exact walk.step_lt graph ‹_›

/-- Follow all edges from a node, unless it is discovered already. -/
def visit (graph : Adjacency n) (walk : Walk n) (node : Fin n) : Walk n :=
  match walk.index.get node with
  | none => (walk.discover graph node).run graph
  | some _ => walk

/-- A walk that has not begun. -/
def start : Walk n :=
  { index := Vector.replicate n none
    low := Vector.replicate n 0
    isOpen := Vector.replicate n false
    stack := []
    calls := []
    count := 0
    components := []
    cyclic := Vector.replicate n false }

/-- The walk through a whole graph. -/
def whole (graph : Adjacency n) : Walk n := (List.finRange n).foldl (visit graph) start

end Walk

/-! ## Graphs of named nodes -/

namespace Digraph

variable {α : Type} [DecidableEq α]

/-- A graph with its nodes numbered in their order. -/
def adjacency (graph : Digraph α) : Adjacency graph.nodes.length :=
  Vector.ofFn fun number => (graph.targets (graph.nodes.get number)).filterMap graph.nodes.finIdxOf?

/-- The nodes that lie on a cycle. -/
def looping (graph : Digraph α) : List α :=
  let cyclic := (Walk.whole graph.adjacency).cyclic
  ((List.finRange graph.nodes.length).filter cyclic.get).map graph.nodes.get

end Digraph
end Parley
