import Mathlib.Logic.Relation
import Parley.Digraph

/-!
# What a search reaches

A search visits exactly the nodes to which a path leads from one of its roots.
-/

namespace Parley
namespace Digraph

variable {α : Type}

/-- An edge of a graph leads from one of its nodes to another. -/
def Edge
    (graph : Digraph α)
    (source target : α) : Prop :=
  source ∈ graph.nodes ∧ target ∈ graph.targets source ∧ target ∈ graph.nodes

/-- A path of any length leads to a node from one of some roots that are nodes. -/
def Reached
    (graph : Digraph α)
    (roots : List α)
    (node : α) : Prop :=
  ∃ root ∈ roots, root ∈ graph.nodes ∧ Relation.ReflTransGen graph.Edge root node

theorem mem_nodes_of_reached
    {graph : Digraph α}
    {roots : List α}
    {node : α}
    (reached : graph.Reached roots node) :
    node ∈ graph.nodes := by
  obtain ⟨root, _, isNode, path⟩ := reached
  cases path with
  | refl => exact isNode
  | tail _ edge => exact edge.2.2

variable [DecidableEq α]

/-- How far a search has come: all visited nodes are reached, and the edges of those that do not wait are followed. -/
structure Searching
    (graph : Digraph α)
    (roots visited waiting : List α) : Prop where
  reached : ∀ node ∈ visited, graph.Reached roots node
  roots_visited : ∀ root ∈ roots, root ∈ graph.nodes → root ∈ visited
  waiting_visited : ∀ node ∈ waiting, node ∈ visited
  followed : ∀ {source target}, source ∈ visited → graph.Edge source target → source ∈ waiting ∨ target ∈ visited

/-- A search begins at the roots. -/
theorem Searching.start (graph : Digraph α) (roots : List α) :
    Searching graph roots (graph.fresh [] roots) (graph.fresh [] roots) where
  reached := by
    intro node isRoot
    obtain ⟨member, isNode, _⟩ := mem_fresh.mp isRoot
    exact ⟨node, member, isNode, .refl⟩
  roots_visited := fun root member isNode => mem_fresh.mpr ⟨member, isNode, List.not_mem_nil⟩
  waiting_visited := fun _ member => member
  followed := fun member _ => .inl member

/-- Following the edges of the first waiting node goes on with a search. -/
theorem Searching.step
    {graph : Digraph α}
    {roots visited waiting : List α}
    {node : α}
    (searching : Searching graph roots visited (node :: waiting)) :
    Searching graph roots
      (visited ++ graph.fresh visited (graph.targets node))
      (waiting ++ graph.fresh visited (graph.targets node)) := by
  have isReached := searching.reached node (searching.waiting_visited node List.mem_cons_self)
  constructor
  case reached =>
    intro other member
    rcases List.mem_append.mp member with wasVisited | isFresh
    · exact searching.reached other wasVisited
    · obtain ⟨root, isRoot, rootNode, path⟩ := isReached
      obtain ⟨isTarget, isNode, _⟩ := mem_fresh.mp isFresh
      exact ⟨root, isRoot, rootNode,
        path.tail ⟨mem_nodes_of_reached ⟨root, isRoot, rootNode, path⟩, isTarget, isNode⟩⟩
  case roots_visited =>
    intro root isRoot isNode
    exact List.mem_append_left _ (searching.roots_visited root isRoot isNode)
  case waiting_visited =>
    intro other member
    rcases List.mem_append.mp member with wasWaiting | isFresh
    · exact List.mem_append_left _ (searching.waiting_visited other (List.mem_cons_of_mem _ wasWaiting))
    · exact List.mem_append_right _ isFresh
  case followed =>
    intro source target member edge
    rcases List.mem_append.mp member with wasVisited | isFresh
    · rcases searching.followed wasVisited edge with waits | isVisited
      · rcases List.mem_cons.mp waits with rfl | stillWaits
        · by_cases isVisited : target ∈ visited
          · exact .inr (List.mem_append_left _ isVisited)
          · exact .inr (List.mem_append_right _ (mem_fresh.mpr ⟨edge.2.1, edge.2.2, isVisited⟩))
        · exact .inl (List.mem_append_left _ stillWaits)
      · exact .inr (List.mem_append_left _ isVisited)
    · exact .inl (List.mem_append_right _ isFresh)

/-- A search ends with nothing left to follow. -/
theorem Searching.search
    {graph : Digraph α}
    {roots visited waiting : List α}
    (searching : Searching graph roots visited waiting) :
    Searching graph roots (graph.search visited waiting) [] := by
  fun_induction Digraph.search graph visited waiting with
  | case1 => exact searching
  | case2 visited node waiting found inductionHypothesis => exact inductionHypothesis searching.step

/-- The reachable nodes are those to which a path leads from a root. -/
theorem mem_reachable
    {graph : Digraph α}
    {roots : List α}
    {node : α} :
    node ∈ graph.reachable roots ↔ graph.Reached roots node := by
  have finished := (Searching.start graph roots).search
  constructor
  · exact finished.reached node
  · rintro ⟨root, isRoot, isNode, path⟩
    induction path with
    | refl => exact finished.roots_visited root isRoot isNode
    | tail _ edge inductionHypothesis =>
        exact (finished.followed inductionHypothesis edge).resolve_left List.not_mem_nil

end Digraph
end Parley
