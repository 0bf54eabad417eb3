import Mathlib.Tactic.ByContra
import Mathlib.Tactic.Push
import Parley.Proofs.Digraph.WalkLeave

/-!
# Completing a component

A node that reaches no lower one is the first of its component, and the nodes opened since are the others.  They reach
one another, and their edges lead to themselves and to complete components only.
-/

namespace Parley
namespace Walk

variable {n : Nat} {graph : Adjacency n} {walk : Walk n}

/-- Every edge that was followed from an open node led to a discovered one. -/
def Explored (graph : Adjacency n) (walk : Walk n) : Prop :=
  ∀ source ∈ walk.stack, ∀ target, Followed graph walk source target → walk.Discovered target

/-- Complete components are what they should be: no edge leads out of all of them, each consists of the nodes that reach
one another, and those of their nodes are marked that lie on a cycle. -/
structure Settled (graph : Adjacency n) (walk : Walk n) : Prop where
  closed_edge : ∀ {source target}, walk.Closed source → graph.Edge source target → walk.Closed target
  components_distinct : walk.components.flatten.Nodup
  components_mutual : ∀ component ∈ walk.components, ∀ node ∈ component, ∀ other,
    other ∈ component ↔ graph.Reaches node other ∧ graph.Reaches other node
  cyclic_iff : ∀ node, walk.cyclic.get node = true ↔ walk.Closed node ∧ Relation.TransGen graph.Edge node node

/-- Only the complete components and their marks matter. -/
theorem Settled.congr
    (settled : Settled graph walk)
    {other : Walk n}
    (components : other.components = walk.components)
    (cyclic : other.cyclic = walk.cyclic) :
    Settled graph other := by
  have closed_iff : ∀ node, other.Closed node ↔ walk.Closed node := by
    intro node
    rw [Closed, Closed, components]
  constructor
  case closed_edge =>
    intro source target closed edge
    exact (closed_iff target).mpr (settled.closed_edge ((closed_iff source).mp closed) edge)
  case components_distinct => exact components ▸ settled.components_distinct
  case components_mutual => exact components ▸ settled.components_mutual
  case cyclic_iff =>
    intro node
    rw [cyclic, closed_iff]
    exact settled.cyclic_iff node

/-- Nothing leads out of the complete components. -/
theorem Settled.closed_of_reaches
    (settled : Settled graph walk)
    {source target : Fin n}
    (closed : walk.Closed source)
    (path : graph.Reaches source target) :
    walk.Closed target := by
  induction path with
  | refl => exact closed
  | tail _ edge inductionHypothesis => exact settled.closed_edge inductionHypothesis edge

section Complete

variable {node : Fin n} {outer : List (Fin n × List (Fin n))}

/-- An edge from a node opened since leads to another of them or to a complete component. -/
theorem Connected.edge_openedSince
    (connected : Connected graph walk)
    (ordered : Ordered graph walk)
    (explored : Explored graph walk)
    (calls : walk.calls = (node, []) :: outer)
    (isRoot : walk.low.get node = walk.rank node)
    {source target : Fin n}
    (member : source ∈ walk.openedSince node)
    (edge : graph.Edge source target) :
    target ∈ walk.openedSince node ∨ walk.Closed target := by
  have isActive := active_of_calls calls
  have isOpen := ordered.active_open isActive
  obtain ⟨sourceOpen, notBelow⟩ := (ordered.mem_openedSince isOpen).mp member
  have followed : Followed graph walk source target := by
    refine ⟨edge, ?_⟩
    rw [calls]
    intro call isCall isSource
    rcases List.mem_cons.mp isCall with rfl | isOuter
    · exact List.not_mem_nil
    · have below := ((ordered.mem_outer calls).mp (List.mem_map_of_mem isOuter)).2
      exact absurd (isSource ▸ below) (Nat.not_lt.mpr notBelow)
  rcases ordered.discovered_iff.mp (explored source sourceOpen target followed) with targetOpen | closed
  · obtain ⟨witness, witnessActive, between, bound⟩ :=
      connected.low_bound sourceOpen followed targetOpen isActive notBelow
    have witnessIsNode : witness = node := by
      by_contra different
      have witnessOuter := mem_outer_of_ne calls witnessActive different
      exact absurd ((ordered.mem_outer calls).mp witnessOuter).2 (Nat.not_lt.mpr between)
    rw [witnessIsNode, isRoot] at bound
    exact .inl ((ordered.mem_openedSince isOpen).mpr ⟨targetOpen, bound⟩)
  · exact .inr closed

/-- The nodes opened since are those that the first of them reaches and that reach it, and so for each of them. -/
theorem Connected.openedSince_mutual
    (connected : Connected graph walk)
    (ordered : Ordered graph walk)
    (explored : Explored graph walk)
    (settled : Settled graph walk)
    (calls : walk.calls = (node, []) :: outer)
    (isRoot : walk.low.get node = walk.rank node)
    {source : Fin n}
    (member : source ∈ walk.openedSince node)
    (other : Fin n) :
    other ∈ walk.openedSince node ↔ graph.Reaches source other ∧ graph.Reaches other source := by
  have isActive := active_of_calls calls
  have isOpen := ordered.active_open isActive
  have fromNode : ∀ goal ∈ walk.openedSince node, graph.Reaches node goal := by
    intro goal goalMember
    obtain ⟨goalOpen, notBelow⟩ := (ordered.mem_openedSince isOpen).mp goalMember
    exact connected.descends isActive goalOpen notBelow
  have toNode : ∀ start ∈ walk.openedSince node, graph.Reaches start node := by
    intro start startMember
    obtain ⟨ancestor, ancestorActive, _, path⟩ :=
      connected.returns ((ordered.mem_openedSince isOpen).mp startMember).1
    exact path.trans (connected.descends ancestorActive isOpen (ordered.rank_le_of_active calls ancestorActive))
  constructor
  · intro otherMember
    exact ⟨(toNode source member).trans (fromNode other otherMember),
      (toNode other otherMember).trans (fromNode source member)⟩
  · rintro ⟨there, back⟩
    have stays : other ∈ walk.openedSince node ∨ walk.Closed other := by
      induction there with
      | refl => exact .inl member
      | tail path edge inductionHypothesis =>
          rcases inductionHypothesis (.head edge back) with inside | closed
          · exact connected.edge_openedSince ordered explored calls isRoot inside edge
          · exact .inr (settled.closed_edge closed edge)
    apply stays.resolve_right
    intro closed
    have sourceOpen := ((ordered.mem_openedSince isOpen).mp member).1
    exact ordered.closed_not_open (settled.closed_of_reaches closed back) sourceOpen

/-- A node of a component lies on a cycle if the component has another node or the node has an edge to itself. -/
theorem onCycle_iff_of_mutual
    {component : List (Fin n)}
    (distinct : component.Nodup)
    {source : Fin n}
    (member : source ∈ component)
    (first : Fin n)
    (firstMember : first ∈ component)
    (strong : ∀ other, other ∈ component ↔ graph.Reaches source other ∧ graph.Reaches other source) :
    Relation.TransGen graph.Edge source source ↔ 1 < component.length ∨ graph.Edge first first := by
  constructor
  · intro cycle
    obtain ⟨next, edge, back⟩ := Relation.TransGen.head'_iff.mp cycle
    have nextMember := (strong next).mpr ⟨.single edge, back⟩
    by_cases alone : component.length ≤ 1
    · have only : ∀ other ∈ component, other = first := by
        intro other otherMember
        match component, alone with
        | [_], _ => rw [List.mem_singleton.mp otherMember, List.mem_singleton.mp firstMember]
      rw [only source member, only next nextMember] at edge
      exact .inr edge
    · exact .inl (Nat.lt_of_not_le alone)
  · rintro (several | edge)
    · obtain ⟨other, otherMember, different⟩ : ∃ other ∈ component, other ≠ source := by
        by_contra none
        push Not at none
        match component, several, distinct with
        | one :: two :: rest, _, distinct =>
            have same := (none one List.mem_cons_self).trans
              (none two (List.mem_cons_of_mem _ List.mem_cons_self)).symm
            exact absurd (same ▸ List.mem_cons_self) (List.nodup_cons.mp distinct).1
      obtain ⟨there, back⟩ := (strong other).mp otherMember
      have leaves := (Relation.reflTransGen_iff_eq_or_transGen.mp there).resolve_left different
      exact leaves.trans_left back
    · obtain ⟨there, back⟩ := (strong first).mp firstMember
      exact .trans_left (.tail' there edge) back

/-- The node before a first node of a component has nothing to take over. -/
theorem passOn_of_root
    (connected : Connected graph walk)
    (ordered : Ordered graph walk)
    (calls : walk.calls = (node, []) :: outer)
    (isRoot : walk.low.get node = walk.rank node) :
    { walk with calls := outer }.passOn node = { walk with calls := outer } := by
  cases outer with
  | nil => rfl
  | cons call rest =>
      have parentOuter : call.1 ∈ ((call :: rest).map Prod.fst) := List.mem_cons_self
      obtain ⟨parentActive, below⟩ := (ordered.mem_outer calls).mp parentOuter
      have unchanged : min (walk.low.get call.1) (walk.low.get node) = walk.low.get call.1 := by
        have lowLe := connected.low_le parentActive
        omega
      change { walk with calls := call :: rest }.lower call.1 (walk.low.get node) = _
      unfold lower
      simp only [unchanged]
      congr 1
      exact Vector.set_getElem_self _

/-- The nodes opened since are closed with their component. -/
theorem closed_complete (calls : List (Fin n × List (Fin n))) (other : Fin n) :
    ({ walk with calls }.complete graph node).Closed other ↔ other ∈ walk.openedSince node ∨ walk.Closed other := by
  change other ∈ (walk.openedSince node :: walk.components).flatten ↔ _
  rw [List.flatten_cons, List.mem_append]
  rfl

/-- Completing a component keeps the order. -/
theorem Ordered.complete
    (ordered : Ordered graph walk)
    (calls : walk.calls = (node, []) :: outer) :
    Ordered graph ({ walk with calls := outer }.complete graph node) := by
  have isOpen := ordered.active_open (active_of_calls calls)
  have split := openedSince_append_openedBefore isOpen
  have beforeSublist : (walk.openedBefore node).Sublist walk.stack := split ▸ List.sublist_append_right _ _
  constructor
  case rank_lt => exact ordered.rank_lt
  case discovered_iff =>
    intro other
    rw [closed_complete, ← or_assoc]
    change walk.Discovered other ↔ (other ∈ walk.openedBefore node ∨ other ∈ walk.openedSince node) ∨ _
    rw [ordered.discovered_iff, ← split, List.mem_append, or_comm (a := other ∈ walk.openedSince node)]
  case closed_not_open =>
    intro other closed before
    obtain ⟨wasOpen, below⟩ := (ordered.mem_openedBefore isOpen).mp before
    rcases (closed_complete outer other).mp closed with since | wasClosed
    · exact absurd below (Nat.not_lt.mpr ((ordered.mem_openedSince isOpen).mp since).2)
    · exact ordered.closed_not_open wasClosed wasOpen
  case isOpen_iff =>
    intro other
    change (setAll walk.isOpen false (walk.openedSince node)).get other = true ↔ other ∈ walk.openedBefore node
    rw [get_setAll_iff, ordered.mem_openedBefore isOpen, ordered.mem_openedSince isOpen, ordered.isOpen_iff]
    constructor
    · rintro (⟨_, isTrue⟩ | ⟨notSince, wasOpen⟩)
      · cases isTrue
      · exact ⟨wasOpen, Nat.lt_of_not_le fun notBelow => notSince ⟨wasOpen, notBelow⟩⟩
    · rintro ⟨wasOpen, below⟩
      exact .inr ⟨fun since => Nat.not_lt.mpr since.2 below, wasOpen⟩
  case stack_sorted => exact ordered.stack_sorted.sublist beforeSublist
  case active_sorted =>
    have sorted := ordered.active_sorted
    rw [active, calls] at sorted
    exact (List.pairwise_cons.mp sorted).2
  case active_open =>
    intro other isOuter
    obtain ⟨wasActive, below⟩ := (ordered.mem_outer calls).mp isOuter
    exact (ordered.mem_openedBefore isOpen).mpr ⟨ordered.active_open wasActive, below⟩
  case pending_edge =>
    intro call member
    exact ordered.pending_edge (calls ▸ List.mem_cons_of_mem _ member)

/-- Completing a component changes nothing between the nodes that stay open. -/
theorem Connected.complete
    (connected : Connected graph walk)
    (ordered : Ordered graph walk)
    (calls : walk.calls = (node, []) :: outer)
    (isRoot : walk.low.get node = walk.rank node) :
    Connected graph ({ walk with calls := outer }.complete graph node) := by
  have isOpen := ordered.active_open (active_of_calls calls)
  have wasOpen : ∀ {other}, other ∈ walk.openedBefore node → other ∈ walk.stack ∧ walk.rank other < walk.rank node :=
    (ordered.mem_openedBefore isOpen).mp
  have wasActive : ∀ {other}, other ∈ outer.map Prod.fst → other ∈ walk.active ∧ walk.rank other < walk.rank node :=
    (ordered.mem_outer calls).mp
  have staysActive : ∀ {other}, other ∈ walk.active → walk.rank other < walk.rank node → other ∈ outer.map Prod.fst :=
    fun isActive below => (ordered.mem_outer calls).mpr ⟨isActive, below⟩
  constructor
  case descends =>
    intro ancestor other isOuter before
    exact connected.descends (wasActive isOuter).1 (wasOpen before).1
  case returns =>
    intro other before
    obtain ⟨otherOpen, below⟩ := wasOpen before
    obtain ⟨ancestor, isActive, rankLe, path⟩ := connected.returns otherOpen
    exact ⟨ancestor, staysActive isActive (Nat.lt_of_le_of_lt rankLe below), rankLe, path⟩
  case low_le =>
    intro other isOuter
    exact connected.low_le (wasActive isOuter).1
  case low_reached =>
    intro other isOuter
    obtain ⟨isActive, below⟩ := wasActive isOuter
    obtain ⟨lowest, lowestOpen, rankEq, path⟩ := connected.low_reached isActive
    refine ⟨lowest, (ordered.mem_openedBefore isOpen).mpr ⟨lowestOpen, ?_⟩, rankEq, path⟩
    have lowLe := connected.low_le isActive
    omega
  case low_bound =>
    intro source target ancestor sourceBefore followed targetBefore isOuter before
    obtain ⟨witness, witnessActive, between, bound⟩ :=
      connected.low_bound (wasOpen sourceBefore).1 (Followed.of_leave calls walk.low followed)
        (wasOpen targetBefore).1 (wasActive isOuter).1 before
    refine ⟨witness, staysActive witnessActive ?_, between, bound⟩
    -- The node that is left bounds nothing that stays open, so the bound is another node's.
    have different : witness ≠ node := by
      rintro rfl
      exact absurd (wasOpen targetBefore).2 (Nat.not_lt.mpr (isRoot ▸ bound))
    exact (wasActive (mem_outer_of_ne calls witnessActive different)).2

/-- Completing a component marks its nodes if they lie on a cycle. -/
theorem cyclic_complete
    (calls : List (Fin n × List (Fin n)))
    (other : Fin n) :
    ({ walk with calls }.complete graph node).cyclic.get other = true ↔
      (other ∈ walk.openedSince node ∧ (1 < (walk.openedSince node).length ∨ graph.Edge node node)) ∨
        walk.cyclic.get other = true := by
  let marked : Bool := 1 < (walk.openedSince node).length || (graph.get node).contains node
  have marked_iff : marked = true ↔ 1 < (walk.openedSince node).length ∨ graph.Edge node node := by
    simp [marked, Adjacency.Edge]
  change (if marked = true then setAll walk.cyclic true (walk.openedSince node) else walk.cyclic).get other = true ↔ _
  rw [← marked_iff]
  cases marked with
  | false => simp
  | true =>
      rw [if_pos rfl, get_setAll_iff]
      by_cases since : other ∈ walk.openedSince node <;> simp [since]

/-- The nodes opened since are a component. -/
theorem Settled.complete
    (settled : Settled graph walk)
    (connected : Connected graph walk)
    (ordered : Ordered graph walk)
    (explored : Explored graph walk)
    (calls : walk.calls = (node, []) :: outer)
    (isRoot : walk.low.get node = walk.rank node) :
    Settled graph ({ walk with calls := outer }.complete graph node) := by
  have isOpen := ordered.active_open (active_of_calls calls)
  have nodeMember := (ordered.mem_openedSince isOpen).mpr ⟨isOpen, Nat.le_refl _⟩
  have stillOpen : ∀ {other}, other ∈ walk.openedSince node → ¬walk.Closed other := by
    intro other member closed
    exact ordered.closed_not_open closed ((ordered.mem_openedSince isOpen).mp member).1
  have distinct : (walk.openedSince node).Nodup := by
    have sorted := ordered.stack_sorted
    rw [← openedSince_append_openedBefore isOpen, List.pairwise_append] at sorted
    refine sorted.1.imp ?_
    rintro later _ before rfl
    exact absurd before (Nat.lt_irrefl _)
  constructor
  case closed_edge =>
    intro source target closed edge
    rw [closed_complete] at closed ⊢
    rcases closed with member | wasClosed
    · exact connected.edge_openedSince ordered explored calls isRoot member edge
    · exact .inr (settled.closed_edge wasClosed edge)
  case components_distinct =>
    change (walk.openedSince node :: walk.components).flatten.Nodup
    rw [List.flatten_cons, List.nodup_append]
    refine ⟨distinct, settled.components_distinct, ?_⟩
    rintro other member _ closed rfl
    exact stillOpen member closed
  case components_mutual =>
    intro component isComponent
    rcases List.mem_cons.mp isComponent with rfl | older
    · intro source member other
      exact connected.openedSince_mutual ordered explored settled calls isRoot member other
    · exact settled.components_mutual component older
  case cyclic_iff =>
    intro other
    rw [cyclic_complete, closed_complete, settled.cyclic_iff, or_and_right]
    refine or_congr (and_congr_right fun member => ?_) Iff.rfl
    exact (onCycle_iff_of_mutual distinct member node nodeMember
      (connected.openedSince_mutual ordered explored settled calls isRoot member)).symm

end Complete

end Walk
end Parley
