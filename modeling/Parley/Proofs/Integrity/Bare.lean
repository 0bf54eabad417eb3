import Parley.Integrity.Check
import Parley.Proofs.Tree.Bare

/-!
# The check does not look at contexts

Every pass of the check says the same about a tree and about the tree without its developer data.
-/

namespace Parley

theorem Tree.successors_bare
    (tree : Tree) :
    tree.bare.successors = tree.successors := by
  funext dialogue
  unfold successors
  rw [dialogues_get?_bare]
  cases tree.dialogues.get? dialogue with
  | none => rfl
  | some stored =>
      have next : (tree.bare.actions.get? · |>.bind (·.next.dialogue?)) =
          (tree.actions.get? · |>.bind (·.next.dialogue?)) := by
        funext action
        rw [actions_get?_bare]
        cases tree.actions.get? action <;> rfl
      simp only [Option.map_some, Dialogue.actions_bare, List.filterMap_filterMap, dialogues_contains_bare, next]

theorem Tree.graph_bare
    (tree : Tree) :
    tree.bare.graph = tree.graph := by
  simp only [graph, dialogues_keys_bare, successors_bare]

namespace Integrity

variable {rules : Rules} {tree : Tree}

theorem illegalIdentifiers_bare
    (tree : Tree) :
    illegalIdentifiers tree.bare = illegalIdentifiers tree := by
  simp only [illegalIdentifiers, Tree.bare, Table.mapEntries, List.flatMap_map, Scene.start_bare, Dialogue.actions_bare,
    Action.owner_bare, Action.next_bare]

theorem driftedKeys_bare
    (tree : Tree) :
    driftedKeys tree.bare = driftedKeys tree := by
  simp only [driftedKeys, Tree.bare, Table.mapEntries, List.flatMap_map, Scene.id_bare, Dialogue.id_bare, Action.id_bare]

theorem ownerFindings_bare
    (tree : Tree)
    (action : Action) :
    ownerFindings tree.bare action.bare = ownerFindings tree action := by
  unfold ownerFindings
  rw [Tree.dialogues_get?_bare, Action.owner_bare]
  cases tree.dialogues.get? action.owner <;> rfl

theorem listedFindings_bare
    (tree : Tree)
    (dialogue : Dialogue) :
    listedFindings tree.bare dialogue.bare = listedFindings tree dialogue := by
  funext action
  unfold listedFindings
  rw [Tree.actions_get?_bare]
  cases tree.actions.get? action <;> rfl

theorem referenceFindings_bare
    (tree : Tree) :
    referenceFindings tree.bare = referenceFindings tree := by
  have next (action : Action) : nextFindings tree.bare action.bare = nextFindings tree action := by
    unfold nextFindings
    rw [Action.next_bare, Tree.dialogues_contains_bare]
    rfl
  have start (scene : Scene) : startFindings tree.bare scene.bare = startFindings tree scene := by
    unfold startFindings
    rw [Tree.dialogues_contains_bare]
    rfl
  simp only [referenceFindings, Tree.scenes_values_bare, Tree.dialogues_values_bare, Tree.actions_values_bare,
    List.flatMap_map, Dialogue.actions_bare, ownerFindings_bare, next, start, listedFindings_bare]

theorem reachedDialogues_bare
    (rules : Rules)
    (tree : Tree) :
    reachedDialogues rules tree.bare = reachedDialogues rules tree := by
  have same : roots rules tree.bare = roots rules tree := by
    rw [roots, Tree.scenes_values_bare, List.map_map, Tree.dialogues_contains_bare]
    rfl
  rw [reachedDialogues, reachedDialogues, Tree.graph_bare, same]

theorem standingFindings_bare
    (key : String)
    (dialogue : Dialogue)
    (standing : Reachability) :
    standingFindings key dialogue.bare standing = standingFindings key dialogue standing := by
  cases standing <;> rfl

theorem findings_bare
    (rules : Rules)
    (tree : Tree)
    (reached looping : List String) :
    findings rules tree.bare reached looping = findings rules tree reached looping := by
  have orphans : orphanFindings rules tree.bare reached = orphanFindings rules tree reached := by
    rw [orphanFindings, orphanFindings, Tree.dialogues_keys_bare]
  have entries : tree.bare.dialogues.entries = tree.dialogues.entries.map fun entry => (entry.1, entry.2.bare) := rfl
  simp only [findings, illegalIdentifiers_bare, driftedKeys_bare, referenceFindings_bare, orphans, entries,
    List.flatMap_map, standingFindings_bare]

/-- The check finds the same in a tree without its contexts. -/
theorem check_bare
    (rules : Rules)
    (tree : Tree) :
    check rules tree.bare = check rules tree := by
  have looping : loopingDialogues tree.bare = loopingDialogues tree := by
    funext reached
    rw [loopingDialogues, loopingDialogues, Tree.graph_bare]
  have standings (standing : String → Reachability) :
      tree.bare.dialogues.mapEntries (fun key _ => standing key) =
        tree.dialogues.mapEntries fun key _ => standing key := by
    apply Table.ext
    simp only [Table.mapEntries, Tree.bare, List.map_map, Function.comp_def]
  simp only [check, reachedDialogues_bare, looping, findings_bare, standings]

/-- Trees that are equal but for their contexts give the check the same to say. -/
theorem check_eq_of_bare_eq
    {left right : Tree}
    (alike : left.bare = right.bare)
    (rules : Rules) :
    check rules left = check rules right := by
  rw [← check_bare rules left, alike, check_bare]

end Integrity
end Parley
