import Parley.Integrity.Check
import Parley.Proofs.Digraph.Cycles

/-!
# Paths through a tree

A conversation goes from dialogue to dialogue along the actions that dialogues list.  The check knows the dialogues that
can be reached in this way from its roots, and those of them that can be reached again.
-/

namespace Parley

/-- A dialogue lists an action that exists and leads on to a dialogue that exists. -/
def Tree.LeadsTo
    (tree : Tree)
    (source target : String) : Prop :=
  ∃ dialogue action stored,
    tree.dialogues.get? source = some dialogue ∧
      action ∈ dialogue.actions ∧
      tree.actions.get? action = some stored ∧
      stored.next = .dialogue target ∧
      target ∈ tree.dialogues.keys

theorem Next.dialogue?_eq_some_iff
    {next : Next}
    {id : String} :
    next.dialogue? = some id ↔ next = .dialogue id := by
  cases next <;> simp [Next.dialogue?]

theorem Tree.LeadsTo.source_mem_keys
    {tree : Tree}
    {source target : String}
    (leads : tree.LeadsTo source target) :
    source ∈ tree.dialogues.keys := by
  obtain ⟨dialogue, _, _, found, _⟩ := leads
  exact Table.mem_keys_iff.mpr ⟨dialogue, found⟩

theorem Tree.LeadsTo.target_mem_keys
    {tree : Tree}
    {source target : String}
    (leads : tree.LeadsTo source target) :
    target ∈ tree.dialogues.keys := by
  obtain ⟨_, _, _, _, _, _, _, isKey⟩ := leads
  exact isKey

theorem Tree.mem_successors
    {tree : Tree}
    {source target : String} :
    target ∈ tree.successors source ↔ tree.LeadsTo source target := by
  unfold Tree.successors Tree.LeadsTo
  split
  · rename_i missing
    simp [missing]
  · rename_i dialogue found
    simp only [found, List.mem_filter, List.mem_filterMap, Table.contains_iff, Next.dialogue?_eq_some_iff,
      Option.some.injEq]
    constructor
    · rintro ⟨⟨stored, ⟨action, listed, actionFound⟩, next⟩, isKey⟩
      exact ⟨dialogue, action, stored, rfl, listed, actionFound, next, isKey⟩
    · rintro ⟨_, action, stored, rfl, listed, actionFound, next, isKey⟩
      exact ⟨⟨stored, ⟨action, listed, actionFound⟩, next⟩, isKey⟩

/-- The edges of the graph of a tree are its listed actions. -/
theorem Tree.graph_edge
    (tree : Tree) :
    tree.graph.Edge = tree.LeadsTo := by
  funext source target
  apply propext
  change source ∈ tree.dialogues.keys ∧ target ∈ tree.successors source ∧ target ∈ tree.dialogues.keys ↔ _
  rw [Tree.mem_successors]
  constructor
  · exact fun edge => edge.2.1
  · intro leads
    exact ⟨leads.source_mem_keys, leads, leads.target_mem_keys⟩

namespace Integrity

/-- A dialogue is a root if it is stored, and is the start of a scene or shared. -/
def IsRoot
    (rules : Rules)
    (tree : Tree)
    (dialogue : String) : Prop :=
  dialogue ∈ tree.dialogues.keys ∧
    ((∃ scene ∈ tree.scenes.values, scene.start = dialogue) ∨ dialogue ∈ rules.sharedDialogues.keys)

/-- A path of any length leads from a root to a dialogue. -/
def CanReach
    (rules : Rules)
    (tree : Tree)
    (dialogue : String) : Prop :=
  ∃ root, IsRoot rules tree root ∧ Relation.ReflTransGen tree.LeadsTo root dialogue

/-- A path of one or more actions leads from a dialogue back to it. -/
def CanReturn
    (tree : Tree)
    (dialogue : String) : Prop :=
  Relation.TransGen tree.LeadsTo dialogue dialogue

/-- A search from the roots of the check starts at the stored ones. -/
theorem graph_reached_iff
    {rules : Rules}
    {tree : Tree}
    {dialogue : String} :
    tree.graph.Reached (roots rules tree) dialogue ↔ CanReach rules tree dialogue := by
  unfold Digraph.Reached CanReach IsRoot
  rw [Tree.graph_edge]
  apply exists_congr
  intro root
  simp only [roots, Tree.graph, List.mem_append, List.mem_map, List.mem_filter, Table.contains_iff]
  constructor
  · rintro ⟨starts | ⟨shared, _⟩, isKey, path⟩
    · exact ⟨⟨isKey, .inl starts⟩, path⟩
    · exact ⟨⟨isKey, .inr shared⟩, path⟩
  · rintro ⟨⟨isKey, starts | shared⟩, path⟩
    · exact ⟨.inl starts, isKey, path⟩
    · exact ⟨.inr ⟨shared, isKey⟩, isKey, path⟩

/-- The check finds the dialogues that can be reached. -/
theorem mem_reachedDialogues
    {rules : Rules}
    {tree : Tree}
    {dialogue : String} :
    dialogue ∈ reachedDialogues rules tree ↔ CanReach rules tree dialogue :=
  Digraph.mem_reachable.trans graph_reached_iff

/-- Of the dialogues that can be reached, the check finds those that can be reached again. -/
theorem mem_loopingDialogues
    {rules : Rules}
    {tree : Tree}
    {dialogue : String}
    (reach : CanReach rules tree dialogue) :
    dialogue ∈ loopingDialogues tree (reachedDialogues rules tree) ↔ CanReturn tree dialogue := by
  unfold loopingDialogues reachedDialogues CanReturn
  rw [Digraph.mem_looping, Digraph.transGen_restrict_iff (graph_reached_iff.mpr reach), Tree.graph_edge]

end Integrity
end Parley
