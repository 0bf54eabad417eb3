/-!
# Paths in finite directed graphs

A graph is a list of nodes and the nodes that each of them leads to.  A search goes outwards from its roots, nearest
nodes first, and follows the edges of no node twice.
-/

namespace Parley

/-- A finite directed graph.  Targets outside the list of nodes count as absent. -/
structure Digraph (α : Type) where
  /-- The nodes, each once. -/
  nodes : List α
  distinct : nodes.Nodup
  /-- Where the edges of a node lead. -/
  targets : α → List α

namespace Digraph

variable {α : Type} [DecidableEq α]

/-- How many nodes a list leaves out. -/
def unvisited (graph : Digraph α) (visited : List α) : Nat :=
  graph.nodes.countP (fun node => !visited.contains node)

theorem unvisited_lt (graph : Digraph α) (before after : List α) {node : α}
    (grows : ∀ other ∈ before, other ∈ after)
    (isNode : node ∈ graph.nodes)
    (isNew : node ∉ before)
    (isVisited : node ∈ after) :
    graph.unvisited after < graph.unvisited before := by
  unfold unvisited
  have shrinks : ∀ other, (!after.contains other) = true → (!before.contains other) = true := by
    intro other outside
    simp only [List.contains_eq_mem, Bool.not_eq_true', decide_eq_false_iff_not] at outside ⊢
    exact fun inside => outside (grows other inside)
  obtain ⟨front, behind, split⟩ := List.append_of_mem isNode
  rw [split, List.countP_append, List.countP_append, List.countP_cons_of_neg (by simpa using isVisited),
    List.countP_cons_of_pos (by simpa using isNew)]
  have inFront := List.countP_mono_left (l := front) fun other _ => shrinks other
  have inBehind := List.countP_mono_left (l := behind) fun other _ => shrinks other
  omega

/-- The nodes among some candidates that were not visited before, each once. -/
def fresh (graph : Digraph α) (visited candidates : List α) : List α :=
  (candidates.filter (fun node => graph.nodes.contains node && !visited.contains node)).eraseDups

theorem mem_fresh {graph : Digraph α} {visited candidates : List α} {node : α} :
    node ∈ graph.fresh visited candidates ↔
      node ∈ candidates ∧ node ∈ graph.nodes ∧ node ∉ visited := by
  simp [fresh, List.mem_eraseDups]

theorem unvisited_append_fresh (graph : Digraph α) (visited candidates : List α) :
    graph.fresh visited candidates = [] ∨
      graph.unvisited (visited ++ graph.fresh visited candidates) < graph.unvisited visited := by
  cases found : graph.fresh visited candidates with
  | nil => exact .inl rfl
  | cons node others =>
    have isFresh := mem_fresh.mp (found ▸ List.mem_cons_self : node ∈ graph.fresh visited candidates)
    exact .inr (graph.unvisited_lt visited _ (fun _ => List.mem_append_left _) isFresh.2.1 isFresh.2.2 (by simp))

/-- All visited nodes after following the edges of those that wait for it, the first one first. -/
def search (graph : Digraph α) (visited : List α) : List α → List α
  | [] => visited
  | node :: waiting =>
    let found := graph.fresh visited (graph.targets node)
    graph.search (visited ++ found) (waiting ++ found)
termination_by waiting => (graph.unvisited visited, waiting.length)
decreasing_by
  rcases graph.unvisited_append_fresh visited (graph.targets node) with none | fewer
  · rw [none, List.append_nil, List.append_nil]
    exact Prod.Lex.right _ (Nat.lt_succ_self _)
  · exact Prod.Lex.left _ _ fewer

/-- The nodes that can be reached from the given ones, these included. -/
def reachable (graph : Digraph α) (roots : List α) : List α :=
  let found := graph.fresh [] roots
  graph.search found found

/-- The part of a graph that consists of some of its nodes. -/
def restrict (graph : Digraph α) (kept : List α) : Digraph α :=
  ⟨graph.nodes.filter kept.contains, graph.distinct.filter _, graph.targets⟩

end Digraph
end Parley
