import Mathlib
import Parley.Proofs.Digraph.Cycles

/-!
# Walks by number

A graph can be given as rows of plain numbers, and a walk can keep what it knows in lists that it reads and writes at such
numbers.  Nothing then says that a number is a place of the list or that the walk comes to an end: reading or writing outside
of a list, like going on for longer than a given number of steps, leaves it without a result.  Where every edge leads to a row
this does not happen if there is a step for every edge and for every node, and the result is that of the walk through the
graph.
-/

namespace Parley

/-! ## The walk -/

/-- How far a walk by number has come. -/
structure NumberedWalk where
  /-- The number of nodes that were discovered earlier, for every discovered node. -/
  index : List (Option Nat)
  /-- An index, as low as is known, of an open node that can be reached. -/
  low : List Nat
  /-- Whether a node is open. -/
  isOpen : List Bool
  /-- The open nodes, the last discovered one first. -/
  stack : List Nat
  /-- The nodes whose edges are being followed, the innermost one first, with the number of edges that were followed. -/
  calls : List (Nat × Nat)
  /-- The number of discovered nodes. -/
  count : Nat
  /-- The complete components, the last one first. -/
  components : List (List Nat)
  /-- Whether a node of a complete component lies on a cycle. -/
  cyclic : List Bool

namespace NumberedWalk

/-- Write a value at a place of a list, which must be there. -/
def put?
    {α : Type}
    (values : List α)
    (place : Nat)
    (value : α) :
    Option (List α) :=
  if place < values.length then some (values.set place value) else none

/-- Open a node, and be about to follow its edges. -/
def discover? (walk : NumberedWalk) (node : Nat) : Option NumberedWalk := do
  let index ← put? walk.index node (some walk.count)
  let low ← put? walk.low node walk.count
  let isOpen ← put? walk.isOpen node true
  return { walk with
    index, low, isOpen
    stack := node :: walk.stack
    calls := (node, 0) :: walk.calls
    count := walk.count + 1 }

/-- Note that an open node of this index can be reached from a node. -/
def lower? (walk : NumberedWalk) (node index : Nat) : Option NumberedWalk := do
  let known ← walk.low[node]?
  let low ← put? walk.low node (min known index)
  return { walk with low }

/-- Follow an edge. -/
def follow? (walk : NumberedWalk) (source target : Nat) : Option NumberedWalk := do
  match ← walk.index[target]? with
  | none => walk.discover? target
  | some index => if ← walk.isOpen[target]? then walk.lower? source index else return walk

/-- Whatever can be reached from a node can be reached from the one whose edge led to it. -/
def passOn? (walk : NumberedWalk) (node : Nat) : Option NumberedWalk :=
  match walk.calls with
  | [] => some walk
  | (parent, _) :: _ => do walk.lower? parent (← walk.low[node]?)

/-- Take nodes off the stack and close them, up to a given one: the nodes that were taken, the stack and the flags. -/
def close? (root : Nat) : List Nat → List Bool → Option (List Nat × List Nat × List Bool)
  | [], isOpen => some ([], [], isOpen)
  | node :: stack, isOpen => do
    let closed ← put? isOpen node false
    if node = root then return ([node], stack, closed)
    let (component, rest, flags) ← close? root stack closed
    return (node :: component, rest, flags)

/-- Mark nodes as lying on a cycle. -/
def mark? (flags : List Bool) (nodes : List Nat) : Option (List Bool) :=
  nodes.foldlM (fun flags node => put? flags node true) flags

/-- Make a component of the open nodes that were discovered from a node on. -/
def complete? (rows : List (List Nat)) (walk : NumberedWalk) (root : Nat) : Option NumberedWalk := do
  let (component, stack, isOpen) ← close? root walk.stack walk.isOpen
  let row ← rows[root]?
  let cyclic ← if 1 < component.length || row.contains root then mark? walk.cyclic component else pure walk.cyclic
  return { walk with isOpen, stack, cyclic, components := component :: walk.components }

/-- Leave a node when all its edges are followed.  If nothing lower can be reached, its component is complete. -/
def leave? (rows : List (List Nat)) (walk : NumberedWalk) (node : Nat) : Option NumberedWalk := do
  let informed ← walk.passOn? node
  let low ← informed.low[node]?
  let index ← informed.index[node]?
  if index = some low then informed.complete? rows node else return informed

/-- Go on at the innermost node. -/
def step? (rows : List (List Nat)) (walk : NumberedWalk) : Option NumberedWalk :=
  match walk.calls with
  | [] => some walk
  | (node, followed) :: outer => do
    let row ← rows[node]?
    match row[followed]? with
    | some target => follow? { walk with calls := (node, followed + 1) :: outer } node target
    | none => leave? rows { walk with calls := outer } node

/-- Go on until all edges are followed, for so many steps at most. -/
def run? (rows : List (List Nat)) : Nat → NumberedWalk → Option NumberedWalk
  | 0, walk => if walk.calls = [] then some walk else none
  | steps + 1, walk =>
    if walk.calls = [] then some walk
    else do
      let next ← walk.step? rows
      run? rows steps next

/-- Follow all edges from a node, unless it is discovered already. -/
def visit? (rows : List (List Nat)) (steps : Nat) (walk : NumberedWalk) (node : Nat) : Option NumberedWalk := do
  match ← walk.index[node]? with
  | none =>
    let found ← walk.discover? node
    run? rows steps found
  | some _ => return walk

/-- A walk through so many nodes that has not begun. -/
def start (size : Nat) : NumberedWalk where
  index := List.replicate size none
  low := List.replicate size 0
  isOpen := List.replicate size false
  stack := []
  calls := []
  count := 0
  components := []
  cyclic := List.replicate size false

/-- The walk through all rows, with so many steps at most for each visit. -/
def whole? (rows : List (List Nat)) (steps : Nat) : Option NumberedWalk :=
  (List.range rows.length).foldlM (visit? rows steps) (start rows.length)

end NumberedWalk

/-! ## The same walk by number -/

variable {n : Nat}

/-- Where the edges of every node lead, by number. -/
def Adjacency.rows (graph : Adjacency n) : List (List Nat) := graph.toList.map (·.map Fin.val)

/-- A walk with numbers for nodes, and with the number of followed edges for the edges that are left. -/
def Walk.numbered (graph : Adjacency n) (walk : Walk n) : NumberedWalk where
  index := walk.index.toList
  low := walk.low.toList
  isOpen := walk.isOpen.toList
  stack := walk.stack.map Fin.val
  calls := walk.calls.map fun call => (call.1.val, (graph.get call.1).length - call.2.length)
  count := walk.count
  components := walk.components.map (·.map Fin.val)
  cyclic := walk.cyclic.toList

namespace NumberedWalk

open Walk (setAll)

variable {graph : Adjacency n} {walk : Walk n} {α : Type}

/-! ### Lists -/

theorem getElem?_toList
    (values : Vector α n)
    (node : Fin n) :
    values.toList[node.val]? = some (values.get node) := by
  simp [Vector.get]

theorem put?_toList
    (values : Vector α n)
    (node : Fin n)
    (value : α) :
    put? values.toList node.val value = some (values.set node.val value node.isLt).toList := by
  simp [put?, Vector.toList_set]

theorem getElem?_rows
    (graph : Adjacency n)
    (node : Fin n) :
    graph.rows[node.val]? = some ((graph.get node).map Fin.val) := by
  rw [Adjacency.rows, List.getElem?_map, getElem?_toList]
  rfl

theorem mark?_toList
    (flags : Vector Bool n)
    (nodes : List (Fin n)) :
    mark? flags.toList (nodes.map Fin.val) = some (setAll flags true nodes).toList := by
  induction nodes generalizing flags with
  | nil => rfl
  | cons node rest inductionHypothesis =>
      rw [mark?, List.map_cons, List.foldlM_cons, put?_toList]
      exact inductionHypothesis _

/-- Closing the nodes on a stack up to one of them takes what stands on it from this node on. -/
theorem close?_toList
    {root : Fin n}
    {stack : List (Fin n)}
    (isOpen : root ∈ stack)
    (flags : Vector Bool n) :
    close? root.val (stack.map Fin.val) flags.toList =
      some ((stack.takeWhile (· != root) ++ [root]).map Fin.val, ((stack.dropWhile (· != root)).tail).map Fin.val,
        (setAll flags false (stack.takeWhile (· != root) ++ [root])).toList) := by
  induction stack generalizing flags with
  | nil => contradiction
  | cons node rest inductionHypothesis =>
      rw [List.map_cons, close?, put?_toList]
      by_cases same : node = root
      · simp [same, setAll]
      · have inRest := (List.mem_cons.mp isOpen).resolve_left fun equal => same equal.symm
        simp [same, Fin.val_inj, inductionHypothesis inRest, setAll]

/-! ### One step -/

theorem discover?_numbered
    (graph : Adjacency n)
    (walk : Walk n)
    (node : Fin n) :
    (walk.numbered graph).discover? node.val = some ((walk.discover graph node).numbered graph) := by
  simp only [discover?, Walk.numbered, put?_toList, Walk.discover]
  simp

theorem lower?_numbered
    (graph : Adjacency n)
    (walk : Walk n)
    (node : Fin n)
    (index : Nat) :
    (walk.numbered graph).lower? node.val index = some ((walk.lower node index).numbered graph) := by
  simp only [lower?, Walk.numbered, getElem?_toList, put?_toList, Walk.lower]
  rfl

theorem follow?_numbered
    (graph : Adjacency n)
    (walk : Walk n)
    (source target : Fin n) :
    (walk.numbered graph).follow? source.val target.val = some ((walk.follow graph source target).numbered graph) := by
  have index : (walk.numbered graph).index[target.val]? = some (walk.index.get target) := getElem?_toList _ _
  have isOpen : (walk.numbered graph).isOpen[target.val]? = some (walk.isOpen.get target) := getElem?_toList _ _
  rw [follow?, index, isOpen, Walk.follow]
  cases walk.index.get target with
  | none => exact discover?_numbered graph walk target
  | some index =>
      cases walk.isOpen.get target with
      | true => exact lower?_numbered graph walk source index
      | false => rfl

theorem passOn?_numbered
    (graph : Adjacency n)
    (walk : Walk n)
    (node : Fin n) :
    (walk.numbered graph).passOn? node.val = some ((walk.passOn node).numbered graph) := by
  have low : (walk.numbered graph).low[node.val]? = some (walk.low.get node) := getElem?_toList _ _
  cases calls : walk.calls with
  | nil =>
      simp only [passOn?, Walk.passOn, calls, Walk.numbered, List.map_nil]
  | cons call outer =>
      have numbered : (walk.numbered graph).calls = (call.1.val, (graph.get call.1).length - call.2.length) :: _ :=
        congrArg (List.map _) calls
      rw [passOn?, numbered, low, Walk.passOn, calls]
      exact lower?_numbered graph walk call.1 (walk.low.get node)

/-- The nodes from an open one on can be taken off the stack. -/
theorem complete?_numbered
    {root : Fin n}
    (isOpen : root ∈ walk.stack) :
    complete? graph.rows (walk.numbered graph) root.val = some ((walk.complete graph root).numbered graph) := by
  have closed : close? root.val (walk.numbered graph).stack (walk.numbered graph).isOpen =
      some ((walk.openedSince root).map Fin.val, (walk.openedBefore root).map Fin.val,
        (setAll walk.isOpen false (walk.openedSince root)).toList) :=
    close?_toList isOpen walk.isOpen
  have marked : mark? (walk.numbered graph).cyclic ((walk.openedSince root).map Fin.val) =
      some (setAll walk.cyclic true (walk.openedSince root)).toList :=
    mark?_toList walk.cyclic (walk.openedSince root)
  have self : ((graph.get root).map Fin.val).contains root.val = (graph.get root).contains root := by
    simp [Fin.val_inj]
  rw [complete?, closed, getElem?_rows, Walk.complete]
  simp only [Option.bind_eq_bind, Option.bind_some, List.length_map, self, marked]
  split
  · rfl
  · rfl

theorem leave?_numbered
    {node : Fin n}
    (isOpen : node ∈ walk.stack) :
    leave? graph.rows (walk.numbered graph) node.val = some ((walk.leave graph node).numbered graph) := by
  have index : ((walk.passOn node).numbered graph).index[node.val]? = some ((walk.passOn node).index.get node) :=
    getElem?_toList _ _
  have low : ((walk.passOn node).numbered graph).low[node.val]? = some ((walk.passOn node).low.get node) :=
    getElem?_toList _ _
  have stillOpen : node ∈ (walk.passOn node).stack := by
    rw [Walk.passOn_eq]
    exact isOpen
  rw [leave?, passOn?_numbered, Walk.leave]
  simp only [Option.bind_eq_bind, Option.bind_some, index, low]
  split
  · exact complete?_numbered stillOpen
  · rfl

/-! ### Steps -/

/-- The edges that are left to follow from a node are the last ones of the node. -/
def Aligned (graph : Adjacency n) (walk : Walk n) : Prop :=
  ∀ call ∈ walk.calls, call.2 <:+ graph.get call.1

theorem Aligned.step
    (aligned : Aligned graph walk) :
    Aligned graph (walk.step graph) := by
  unfold Walk.step
  split
  · exact aligned
  · rename_i node outer calls
    intro call member
    rw [Walk.calls_leave] at member
    exact aligned call (calls ▸ List.mem_cons_of_mem _ member)
  · rename_i node target later outer calls
    have advanced : Aligned graph { walk with calls := (node, later) :: outer } := by
      intro call member
      rcases List.mem_cons.mp member with rfl | outside
      · exact (List.suffix_cons target later).trans (aligned (node, target :: later) (calls ▸ List.mem_cons_self))
      · exact aligned call (calls ▸ List.mem_cons_of_mem _ outside)
    unfold Walk.follow
    split
    · intro call member
      rcases List.mem_cons.mp member with rfl | outside
      · exact List.suffix_rfl
      · exact advanced call outside
    · split <;> exact advanced

/-- Where so many edges of a node are left, what stands behind the followed ones is the next edge. -/
theorem getElem?_followed
    {edges later : List (Fin n)}
    (suffix : later <:+ edges) :
    (edges.map Fin.val)[edges.length - later.length]? = later.head?.map Fin.val := by
  obtain ⟨followed, rfl⟩ := suffix
  rw [List.length_append, Nat.add_sub_cancel, List.getElem?_map, List.getElem?_append_right (Nat.le_refl _),
    Nat.sub_self, List.head?_eq_getElem?]

/-- A step by number reads and writes at places that are there, and is a step of the walk. -/
theorem step?_numbered
    (ordered : Walk.Ordered graph walk)
    (aligned : Aligned graph walk) :
    (walk.numbered graph).step? graph.rows = some ((walk.step graph).numbered graph) := by
  cases calls : walk.calls with
  | nil =>
      have numbered : (walk.numbered graph).calls = [] := congrArg (List.map _) calls
      rw [step?, numbered, Walk.step, calls]
  | cons call outer =>
      obtain ⟨node, later⟩ := call
      have numbered : (walk.numbered graph).calls =
          (node.val, (graph.get node).length - later.length) :: _ := congrArg (List.map _) calls
      have suffix : later <:+ graph.get node := aligned (node, later) (calls ▸ List.mem_cons_self)
      have isOpen : node ∈ walk.stack := ordered.active_open (by simp [Walk.active, calls])
      rw [step?, numbered]
      simp only [getElem?_rows, getElem?_followed suffix, Option.bind_eq_bind, Option.bind_some]
      rw [Walk.step, calls]
      cases later with
      | nil =>
          have left : node ∈ ({ walk with calls := outer } : Walk n).stack := isOpen
          exact leave?_numbered left
      | cons target later =>
          have advanced : (graph.get node).length - (target :: later).length + 1 = (graph.get node).length - later.length := by
            have enough := suffix.length_le
            rw [List.length_cons] at enough ⊢
            omega
          rw [advanced]
          exact follow?_numbered graph { walk with calls := (node, later) :: outer } node target

/-! ### The number of steps -/

/-- The edges of the nodes that are not discovered, and these nodes. -/
def unexplored (graph : Adjacency n) (walk : Walk n) : Nat :=
  ∑ node, if walk.index.get node = none then (graph.get node).length + 1 else 0

/-- The number of steps that a walk has before it. -/
def remaining (graph : Adjacency n) (walk : Walk n) : Nat := Walk.pending walk.calls + unexplored graph walk

theorem unexplored_discover
    {node : Fin n}
    (isNew : walk.index.get node = none) :
    (graph.get node).length + 1 + unexplored graph (walk.discover graph node) = unexplored graph walk := by
  have rest : ∀ other ∈ Finset.univ.erase node,
      (walk.discover graph node).index.get other = walk.index.get other := fun other member => by
    rw [Walk.index_discover, if_neg (Finset.ne_of_mem_erase member)]
  rw [unexplored, unexplored, ← Finset.add_sum_erase _ _ (Finset.mem_univ node),
    ← Finset.add_sum_erase _ _ (Finset.mem_univ node), Walk.index_discover, if_pos rfl, isNew,
    Finset.sum_congr rfl fun other member => by rw [rest other member]]
  simp

/-- The edges of a new node are counted before and after it is discovered. -/
theorem remaining_discover
    {node : Fin n}
    (isNew : walk.index.get node = none) :
    remaining graph (walk.discover graph node) = remaining graph walk := by
  have calls : (walk.discover graph node).calls = (node, graph.get node) :: walk.calls := rfl
  rw [remaining, remaining, calls, Walk.pending, ← unexplored_discover isNew]
  omega

/-- A walk takes just as many steps as it has before it. -/
theorem remaining_step
    (unfinished : walk.calls ≠ []) :
    remaining graph (walk.step graph) + 1 = remaining graph walk := by
  unfold Walk.step
  split
  · contradiction
  · rename_i node outer calls
    have left : Walk.pending ({ walk with calls := outer }.leave graph node).calls + 1 = Walk.pending walk.calls := by
      rw [Walk.calls_leave, calls, Walk.pending, List.length_nil, Nat.zero_add, Nat.add_comm]
    have same : unexplored graph ({ walk with calls := outer }.leave graph node) = unexplored graph walk := by
      rw [unexplored, unexplored, Walk.index_leave]
    rw [remaining, remaining, same, ← left, Nat.add_right_comm]
  · rename_i node target later outer calls
    have advanced : remaining graph { walk with calls := (node, later) :: outer } + 1 = remaining graph walk := by
      rw [remaining, remaining, calls, Walk.pending, Walk.pending, List.length_cons]
      change _ + unexplored graph walk + 1 = _
      omega
    unfold Walk.follow
    split
    · rename_i isNew
      rw [remaining_discover isNew]
      exact advanced
    · split <;> exact advanced

/-- Going on by number ends where the walk ends. -/
theorem run?_numbered
    {steps : Nat}
    (invariant : Walk.Invariant graph walk)
    (aligned : Aligned graph walk)
    (enough : remaining graph walk ≤ steps) :
    run? graph.rows steps (walk.numbered graph) = some ((walk.run graph).numbered graph) := by
  fun_induction Walk.run graph walk generalizing steps with
  | case1 walk finished =>
      have numbered : (walk.numbered graph).calls = [] := congrArg (List.map _) finished
      cases steps <;> rw [run?, if_pos numbered]
  | case2 walk unfinished inductionHypothesis =>
      have numbered : (walk.numbered graph).calls ≠ [] := fun none => unfinished (List.map_eq_nil_iff.mp none)
      have fewer : remaining graph (walk.step graph) + 1 = remaining graph walk := remaining_step unfinished
      obtain ⟨left, rfl⟩ : ∃ left, steps = left + 1 := ⟨steps - 1, by omega⟩
      rw [run?, if_neg numbered, step?_numbered invariant.ordered aligned]
      exact inductionHypothesis invariant.step aligned.step (by omega)

/-! ### The whole walk -/

theorem length_rows
    (graph : Adjacency n) :
    graph.rows.length = n := by
  simp [Adjacency.rows]

theorem length_flatten_rows
    (graph : Adjacency n) :
    graph.rows.flatten.length = ∑ node, (graph.get node).length := by
  have lengths : graph.rows.map List.length = List.ofFn fun node => (graph.get node).length := by
    apply List.ext_getElem
    · rw [List.length_map, length_rows, List.length_ofFn]
    · intro node _ _
      simp [Adjacency.rows, Vector.get]
  rw [List.length_flatten, lengths, List.sum_ofFn]

/-- There are no more steps than edges and nodes. -/
theorem unexplored_le
    (graph : Adjacency n)
    (walk : Walk n) :
    unexplored graph walk ≤ graph.rows.length + graph.rows.flatten.length := calc
  unexplored graph walk
    ≤ ∑ node, ((graph.get node).length + 1) := Finset.sum_le_sum fun node _ => by split <;> omega
  _ = graph.rows.length + graph.rows.flatten.length := by
    rw [Finset.sum_add_distrib, Finset.sum_const, Finset.card_univ, Fintype.card_fin, smul_eq_mul, Nat.mul_one,
      length_rows, length_flatten_rows, Nat.add_comm]

theorem visit?_numbered
    {steps : Nat}
    (resting : Walk.Resting graph walk)
    (enough : graph.rows.length + graph.rows.flatten.length ≤ steps)
    (node : Fin n) :
    visit? graph.rows steps (walk.numbered graph) node.val = some ((walk.visit graph node).numbered graph) := by
  have index : (walk.numbered graph).index[node.val]? = some (walk.index.get node) := getElem?_toList _ _
  rw [visit?, index, Walk.visit]
  cases isNew : walk.index.get node with
  | some _ => rfl
  | none =>
      have calls : (walk.discover graph node).calls = [(node, graph.get node)] :=
        congrArg (_ :: ·) resting.calls_eq_nil
      have aligned : Aligned graph (walk.discover graph node) := by
        intro call member
        rw [calls, List.mem_singleton] at member
        exact member ▸ List.suffix_rfl
      have few : remaining graph (walk.discover graph node) ≤ steps := calc
        remaining graph (walk.discover graph node)
          = unexplored graph walk := by
            rw [remaining_discover isNew, remaining, resting.calls_eq_nil, Walk.pending, Nat.zero_add]
        _ ≤ graph.rows.length + graph.rows.flatten.length := unexplored_le graph walk
        _ ≤ steps := enough
      simp only [Option.bind_eq_bind, Option.bind_some, discover?_numbered]
      exact run?_numbered (resting.discover isNew) aligned few

theorem visits_numbered
    {steps : Nat}
    (resting : Walk.Resting graph walk)
    (enough : graph.rows.length + graph.rows.flatten.length ≤ steps)
    (nodes : List (Fin n)) :
    (nodes.map Fin.val).foldlM (visit? graph.rows steps) (walk.numbered graph) =
      some ((nodes.foldl (Walk.visit graph) walk).numbered graph) := by
  induction nodes generalizing walk with
  | nil => rfl
  | cons node rest inductionHypothesis =>
      rw [List.map_cons, List.foldlM_cons, visit?_numbered resting enough]
      exact inductionHypothesis (resting.visit node).1

theorem start_numbered
    (graph : Adjacency n) :
    start n = (Walk.start : Walk n).numbered graph := by
  simp [start, Walk.numbered, Walk.start]

/-- The walk by number comes to an end without a place that is missing, and it is the walk through the graph. -/
theorem whole?_numbered
    {steps : Nat}
    (graph : Adjacency n)
    (enough : graph.rows.length + graph.rows.flatten.length ≤ steps) :
    whole? graph.rows steps = some ((Walk.whole graph).numbered graph) := by
  rw [whole?, length_rows, start_numbered graph, ← List.map_coe_finRange_eq_range]
  exact visits_numbered ⟨Walk.Invariant.start graph, rfl⟩ enough (List.finRange n)

end NumberedWalk

/-! ## Rows of numbers -/

/-- An edge leads from one row to another. -/
def Leads (rows : List (List Nat)) (source target : Nat) : Prop :=
  ∃ row, rows[source]? = some row ∧ target ∈ row

/-- The graph of rows in which every edge leads to a row. -/
def Adjacency.ofRows
    (rows : List (List Nat))
    (inside : ∀ row ∈ rows, ∀ target ∈ row, target < rows.length) :
    Adjacency rows.length :=
  Vector.ofFn fun node => (rows.get node).pmap Fin.mk (inside _ (List.get_mem rows node))

namespace Adjacency

variable {graph : Adjacency n}

theorem rows_ofRows
    {rows : List (List Nat)}
    (inside : ∀ row ∈ rows, ∀ target ∈ row, target < rows.length) :
    (ofRows rows inside).rows = rows := by
  apply List.ext_getElem
  · exact NumberedWalk.length_rows _
  · intro node _ isRow
    simp [Adjacency.rows, ofRows, List.map_pmap]

theorem leads_iff
    {source : Fin n}
    {target : Nat} :
    Leads graph.rows source target ↔ ∃ node : Fin n, graph.Edge source node ∧ node.val = target := by
  simp [Leads, NumberedWalk.getElem?_rows, Adjacency.Edge]

/-- A path by number is a path of the graph, of as many edges. -/
theorem transGen_iff
    {source : Fin n}
    {target : Nat} :
    Relation.TransGen (Leads graph.rows) source target ↔
      ∃ node : Fin n, Relation.TransGen graph.Edge source node ∧ node.val = target := by
  constructor
  · intro path
    induction path with
    | single edge =>
        obtain ⟨node, edge, same⟩ := leads_iff.mp edge
        exact ⟨node, .single edge, same⟩
    | tail _ edge inductionHypothesis =>
        obtain ⟨middle, path, rfl⟩ := inductionHypothesis
        obtain ⟨node, edge, same⟩ := leads_iff.mp edge
        exact ⟨node, path.tail edge, same⟩
  · rintro ⟨node, path, rfl⟩
    induction path with
    | single edge => exact .single (leads_iff.mpr ⟨_, edge, rfl⟩)
    | tail _ edge inductionHypothesis => exact inductionHypothesis.tail (leads_iff.mpr ⟨_, edge, rfl⟩)

theorem reflTransGen_iff
    {source : Fin n}
    {target : Nat} :
    Relation.ReflTransGen (Leads graph.rows) source target ↔
      ∃ node : Fin n, graph.Reaches source node ∧ node.val = target := by
  simp only [Reaches, Relation.reflTransGen_iff_eq_or_transGen, transGen_iff, or_and_right, exists_or, exists_eq_left,
    eq_comm (a := target)]

end Adjacency

namespace NumberedWalk

open Relation (ReflTransGen TransGen)

variable {graph : Adjacency n}

/-- Every node is in one component, once. -/
theorem flatten_components_perm
    (graph : Adjacency n) :
    ((Walk.whole graph).numbered graph).components.flatten.Perm (List.range n) := by
  obtain ⟨settled, closed⟩ := Walk.whole_closed graph
  have all : (Walk.whole graph).components.flatten.Perm (List.finRange n) :=
    (List.perm_ext_iff_of_nodup settled.components_distinct (List.nodup_finRange n)).mpr fun node =>
      iff_of_true (closed node) (List.mem_finRange node)
  rw [← List.map_coe_finRange_eq_range]
  simpa only [Walk.numbered, List.map_flatten] using all.map Fin.val

/-- A component has just the nodes that reach one another. -/
theorem mem_component_iff
    {component : List Nat}
    {node other : Nat}
    (complete : component ∈ ((Walk.whole graph).numbered graph).components)
    (member : node ∈ component) :
    other ∈ component ↔ ReflTransGen (Leads graph.rows) node other ∧ ReflTransGen (Leads graph.rows) other node := by
  obtain ⟨nodes, isComponent, rfl⟩ := List.mem_map.mp complete
  obtain ⟨node, inNodes, rfl⟩ := List.mem_map.mp member
  have classes := (Walk.whole_closed graph).1.components_mutual nodes isComponent node inNodes
  constructor
  · intro inside
    obtain ⟨other, isOther, rfl⟩ := List.mem_map.mp inside
    obtain ⟨there, back⟩ := (classes other).mp isOther
    exact ⟨Adjacency.reflTransGen_iff.mpr ⟨other, there, rfl⟩, Adjacency.reflTransGen_iff.mpr ⟨node, back, rfl⟩⟩
  · rintro ⟨there, back⟩
    obtain ⟨other, reached, rfl⟩ := Adjacency.reflTransGen_iff.mp there
    obtain ⟨again, reachedBack, same⟩ := Adjacency.reflTransGen_iff.mp back
    cases Fin.ext same
    exact List.mem_map_of_mem ((classes other).mpr ⟨reached, reachedBack⟩)

/-- Just the nodes are marked that a path of one or more edges leads back to. -/
theorem cyclic_iff
    (graph : Adjacency n)
    (node : Nat) :
    ((Walk.whole graph).numbered graph).cyclic[node]? = some true ↔ TransGen (Leads graph.rows) node node := by
  by_cases isNode : node < n
  · obtain ⟨node, rfl⟩ : ∃ place : Fin n, place.val = node := ⟨⟨node, isNode⟩, rfl⟩
    have flag : ((Walk.whole graph).numbered graph).cyclic[node.val]? = some ((Walk.whole graph).cyclic.get node) :=
      getElem?_toList _ node
    rw [flag, Option.some.injEq, Walk.cyclic_whole, Adjacency.transGen_iff]
    refine ⟨fun path => ⟨node, path, rfl⟩, ?_⟩
    rintro ⟨again, path, same⟩
    exact Fin.ext same ▸ path
  · refine iff_of_false ?_ fun path => ?_
    · rw [List.getElem?_eq_none (by simpa [Walk.numbered] using isNode)]
      exact nofun
    · obtain ⟨_, ⟨row, isRow, _⟩, _⟩ := Relation.TransGen.head'_iff.mp path
      have place := (List.getElem?_eq_some_iff.mp isRow).1
      rw [length_rows] at place
      exact isNode place

/-- Where every edge of some rows leads to a row, the walk through them comes to an end after no more steps than there are
edges and nodes, all numbers being places of the lists that it reads and writes.  It is the walk through the graph of the rows.
Every node is in one component, once, together with the nodes that it reaches and that reach it, and is marked if a path of
one or more edges leads from it back to it. -/
theorem whole?_of_rows
    {rows : List (List Nat)}
    (inside : ∀ row ∈ rows, ∀ target ∈ row, target < rows.length) :
    ∃ walk, (∀ steps, rows.length + rows.flatten.length ≤ steps → whole? rows steps = some walk) ∧
      walk = (Walk.whole (.ofRows rows inside)).numbered (.ofRows rows inside) ∧
        walk.components.flatten.Perm (List.range rows.length) ∧
          (∀ component ∈ walk.components, ∀ node ∈ component, ∀ other,
            other ∈ component ↔ ReflTransGen (Leads rows) node other ∧ ReflTransGen (Leads rows) other node) ∧
            walk.cyclic.length = rows.length ∧
              ∀ node, walk.cyclic[node]? = some true ↔ TransGen (Leads rows) node node := by
  have same := Adjacency.rows_ofRows inside
  refine ⟨_, fun steps enough => ?_, rfl, flatten_components_perm _, fun component complete node member other => ?_, ?_,
    fun node => ?_⟩
  · rw [← whole?_numbered _ (same.symm ▸ enough), same]
  · rw [mem_component_iff complete member, same]
  · exact Vector.length_toList
  · rw [cyclic_iff, same]

/-- A node with an edge to itself, two nodes that lead to one another, one of them twice, and a node by itself. -/
def scatteredRows : List (List Nat) := [[0], [2, 2], [1], []]

/-- The first three are marked, and the last one is not. -/
theorem whole?_scatteredRows :
    (∀ row ∈ scatteredRows, ∀ target ∈ row, target < scatteredRows.length) ∧
      ∃ walk, whole? scatteredRows 8 = some walk ∧ walk.components.flatten.Perm [0, 1, 2, 3] ∧
        walk.cyclic = [true, true, true, false] := by
  have inside : ∀ row ∈ scatteredRows, ∀ target ∈ row, target < scatteredRows.length := by decide
  obtain ⟨walk, ends, _, all, _, _, _⟩ := whole?_of_rows inside
  have whole := ends 8 (by decide)
  refine ⟨inside, walk, whole, all, ?_⟩
  have marks : (whole? scatteredRows 8).map NumberedWalk.cyclic = some [true, true, true, false] := by decide
  rw [whole] at marks
  exact Option.some.inj marks

end NumberedWalk
end Parley
