import Mathlib
import Parley.Draft
import Parley.Proofs.Tree.Store

/-!
# Entering actions in the lists of their owners

The owner of an action is looked up by its key and stored again under its identifier.  No scene, no action and no key is
touched in any tree.  Where a dialogue stands under a key that is not its identifier, the one that stands under its
identifier gives way to it; all others keep their lines, and their lists at the front.
-/

namespace Parley

/-- The dialogue with more actions at the end of its list. -/
def Dialogue.withActions (dialogue : Dialogue) (added : List String) : Dialogue :=
  { dialogue with actions := dialogue.actions ++ added }

theorem Dialogue.withActions_nil
    (dialogue : Dialogue) :
    dialogue.withActions [] = dialogue := by
  rw [withActions, List.append_nil]

theorem Dialogue.withActions_withAction
    (dialogue : Dialogue)
    (added : List String)
    (action : String) :
    (dialogue.withActions added).withAction action = dialogue.withActions (added ++ [action]) := by
  rw [withAction, withActions, withActions, List.append_assoc]

theorem Dialogue.withAction_withActions
    (dialogue : Dialogue)
    (action : String)
    (added : List String) :
    (dialogue.withAction action).withActions added = dialogue.withActions (action :: added) := by
  rw [withActions, withAction, withActions, List.append_assoc, List.singleton_append]

namespace Draft

variable {tree current : Tree} {action : Action} {owner dialogue : Dialogue} {key : String}

theorem isUnlisted_iff :
    isUnlisted tree action = true ↔
      ∃ owner, tree.dialogues.get? action.owner = some owner ∧ action.id ∉ owner.actions := by
  unfold isUnlisted
  split
  · rename_i owner found
    simp [found, Dialogue.offers]
  · rename_i none
    simp [none]

/-! ## One action -/

theorem link_of_none
    (missing : tree.dialogues.get? action.owner = none) :
    link tree action = tree := by
  rw [link, missing]

theorem link_of_owner
    (found : tree.dialogues.get? action.owner = some owner)
    (stored : owner.id ∈ tree.dialogues.keys) :
    link tree action = tree.put (.dialogue (owner.withAction action.id)) := by
  obtain ⟨old, there⟩ := Table.mem_keys_iff.mp stored
  have entity : tree.get? .dialogue owner.id = some (.dialogue old) :=
    Tree.get?_dialogue_eq_some_iff.mpr ⟨old, there, rfl⟩
  have replaced : tree.replace? (.dialogue (owner.withAction action.id)) =
      some (.dialogue old, tree.put (.dialogue (owner.withAction action.id))) := by
    rw [Tree.replace?]
    simp only [Entity.kind, Entity.id, Dialogue.withAction, entity, Option.map_some]
  simp only [link, found, replaced, Option.map_some, Option.getD_some]

theorem link_of_displaced
    (found : tree.dialogues.get? action.owner = some owner)
    (unstored : owner.id ∉ tree.dialogues.keys) :
    link tree action = tree := by
  have missing : tree.get? .dialogue owner.id = none := by
    rw [Tree.get?, Option.map_eq_none_iff, Option.eq_none_iff_forall_ne_some]
    exact fun old there => unstored (Table.mem_keys_iff.mpr ⟨old, there⟩)
  have refused : tree.replace? (.dialogue (owner.withAction action.id)) = none := by
    rw [Tree.replace?]
    simp only [Entity.kind, Entity.id, Dialogue.withAction, missing, Option.map_none]
  simp only [link, found, refused, Option.map_none, Option.getD_none]

/-- All that entering an action can do: nothing, or to store its owner again under a key that is there. -/
theorem link_cases
    (tree : Tree)
    (action : Action) :
    link tree action = tree ∨
      ∃ owner, tree.dialogues.get? action.owner = some owner ∧ owner.id ∈ tree.dialogues.keys ∧
        link tree action = tree.put (.dialogue (owner.withAction action.id)) := by
  cases found : tree.dialogues.get? action.owner with
  | none => exact .inl (link_of_none found)
  | some owner =>
      by_cases stored : owner.id ∈ tree.dialogues.keys
      · exact .inr ⟨owner, rfl, stored, link_of_owner found stored⟩
      · exact .inl (link_of_displaced found stored)

theorem link_frame
    (tree : Tree)
    (action : Action) :
    (link tree action).scenes = tree.scenes ∧ (link tree action).actions = tree.actions ∧
      (link tree action).dialogues.keys = tree.dialogues.keys := by
  rcases link_cases tree action with same | ⟨owner, _, stored, linked⟩
  · rw [same]
    exact ⟨rfl, rfl, rfl⟩
  · rw [linked]
    exact ⟨rfl, rfl, Table.keys_insert_of_mem_keys stored⟩

/-! ## All actions -/

theorem foldl_link_frame
    (actions : List Action)
    (tree : Tree) :
    (actions.foldl link tree).scenes = tree.scenes ∧ (actions.foldl link tree).actions = tree.actions ∧
      (actions.foldl link tree).dialogues.keys = tree.dialogues.keys := by
  induction actions generalizing tree with
  | nil => exact ⟨rfl, rfl, rfl⟩
  | cons action rest inductionHypothesis =>
      obtain ⟨scenes, actions, keys⟩ := link_frame tree action
      obtain ⟨restScenes, restActions, restKeys⟩ := inductionHypothesis (link tree action)
      exact ⟨restScenes.trans scenes, restActions.trans actions, restKeys.trans keys⟩

end Draft

/-! ## Where dialogues come from -/

/-- A dialogue is one of the tree but for more actions at the end of its list, and it was stored under this key or has it as
its identifier. -/
def Tree.Supplies (tree : Tree) (key : String) (dialogue : Dialogue) : Prop :=
  ∃ source original added, tree.dialogues.get? source = some original ∧ (source = key ∨ original.id = key) ∧
    dialogue = original.withActions added

/-- An action is missing from the list of its owner, which has this key as its identifier and stands under another. -/
def Tree.Displaces (tree : Tree) (action : Action) (key : String) : Prop :=
  Draft.isUnlisted tree action = true ∧ action.owner ≠ key ∧
    ∃ owner, tree.dialogues.get? action.owner = some owner ∧ owner.id = key

namespace Draft

variable {tree current : Tree} {action : Action} {owner dialogue : Dialogue} {key : String}

theorem supplies_link
    (supplied : ∀ key dialogue, current.dialogues.get? key = some dialogue → tree.Supplies key dialogue) :
    ∀ key dialogue, (link current action).dialogues.get? key = some dialogue → tree.Supplies key dialogue := by
  intro key dialogue there
  rcases link_cases current action with same | ⟨owner, found, _, linked⟩
  · rw [same] at there
    exact supplied key dialogue there
  · rw [linked] at there
    replace there := (Table.get?_insert current.dialogues owner.id key (owner.withAction action.id)).symm.trans there
    split_ifs at there with here
    · cases there
      obtain ⟨source, original, added, stored, _, rfl⟩ := supplied _ _ found
      exact ⟨source, original, added ++ [action.id], stored, .inr here.symm, original.withActions_withAction _ _⟩
    · exact supplied key dialogue there

theorem supplies_foldl_link
    {actions : List Action}
    (supplied : ∀ key dialogue, current.dialogues.get? key = some dialogue → tree.Supplies key dialogue) :
    ∀ key dialogue, (actions.foldl link current).dialogues.get? key = some dialogue → tree.Supplies key dialogue := by
  induction actions generalizing current with
  | nil => exact supplied
  | cons action rest inductionHypothesis => exact inductionHypothesis (supplies_link supplied)

/-! ## Dialogues that keep their places -/

/-- The owner of an action stood under this key from the start if it has it as its identifier. -/
def KeepsPlace (tree : Tree) (key : String) (action : Action) : Prop :=
  ∀ {owner}, tree.dialogues.get? action.owner = some owner → owner.id = key → action.owner = key

theorem exists_withActions_link
    {added : List String}
    (supplied : ∀ key dialogue, current.dialogues.get? key = some dialogue → tree.Supplies key dialogue)
    (keepsPlace : KeepsPlace tree key action)
    (there : current.dialogues.get? key = some (dialogue.withActions added)) :
    ∃ more, (link current action).dialogues.get? key = some (dialogue.withActions more) := by
  rcases link_cases current action with same | ⟨owner, found, _, linked⟩
  · exact ⟨added, same.symm ▸ there⟩
  · have stored := Table.get?_insert current.dialogues owner.id key (owner.withAction action.id)
    rw [linked]
    split_ifs at stored with here
    · -- Whatever is stored under the key comes from the key itself.
      have ownKey : action.owner = key := by
        obtain ⟨source, original, _, origin, rfl | same, rfl⟩ := supplied _ _ found
        · exact keepsPlace origin here.symm
        · exact same.symm.trans here.symm
      rw [ownKey, there] at found
      cases found
      exact ⟨added ++ [action.id], stored.trans (congrArg some (dialogue.withActions_withAction _ _))⟩
    · exact ⟨added, stored.trans there⟩

theorem exists_withActions_foldl_link
    {actions : List Action}
    {added : List String}
    (supplied : ∀ key dialogue, current.dialogues.get? key = some dialogue → tree.Supplies key dialogue)
    (keepPlace : ∀ action ∈ actions, KeepsPlace tree key action)
    (there : current.dialogues.get? key = some (dialogue.withActions added)) :
    ∃ more, (actions.foldl link current).dialogues.get? key = some (dialogue.withActions more) := by
  induction actions generalizing current added with
  | nil => exact ⟨added, there⟩
  | cons action rest inductionHypothesis =>
      obtain ⟨first, further⟩ := List.forall_mem_cons.mp keepPlace
      obtain ⟨more, linked⟩ := exists_withActions_link supplied first there
      exact inductionHypothesis (supplies_link supplied) further linked

/-- Finishing a draft of any tree touches no scene, no action and no key.  Every dialogue of the finished tree is one of the
tree, with its identifier, line and data and its list at the front, and it stood under the same key or has this key as its
identifier.  Under a key where no action displaces it, the dialogue is the one that stood there. -/
theorem finish_supplied
    (tree : Tree) :
    (ofTree tree).finish.scenes = tree.scenes ∧ (ofTree tree).finish.actions = tree.actions ∧
      (ofTree tree).finish.dialogues.keys = tree.dialogues.keys ∧
        (∀ key linked, (ofTree tree).finish.dialogues.get? key = some linked → tree.Supplies key linked) ∧
          ∀ key dialogue, tree.dialogues.get? key = some dialogue →
            (∀ action ∈ tree.actions.values, ¬tree.Displaces action key) →
              ∃ added, (ofTree tree).finish.dialogues.get? key = some (dialogue.withActions added) := by
  have self : ∀ key dialogue, tree.dialogues.get? key = some dialogue → tree.Supplies key dialogue :=
    fun key dialogue found => ⟨key, dialogue, [], found, .inl rfl, dialogue.withActions_nil.symm⟩
  obtain ⟨scenes, actions, keys⟩ := foldl_link_frame (tree.actions.values.filter (isUnlisted tree)) tree
  refine ⟨scenes, actions, keys, supplies_foldl_link self, fun key dialogue found undisplaced => ?_⟩
  have there : tree.dialogues.get? key = some (dialogue.withActions []) :=
    found.trans (congrArg some dialogue.withActions_nil.symm)
  refine exists_withActions_foldl_link self (fun action member owner stored same => ?_) there
  obtain ⟨inTable, unlisted⟩ := List.mem_filter.mp member
  by_contra elsewhere
  exact undisplaced action inTable ⟨unlisted, elsewhere, owner, stored, same⟩

/-- A tree in which the dialogue `b` stands under the key `a` as well, and owns an action there that it does not list. -/
def driftedTalk : Tree where
  dialogues := .ofList [("a", { id := "b", text := "Who?" }), ("b", { id := "b", text := "Me.", actions := ["y"] })]
  actions := .ofList [("x", { id := "x", owner := "a", next := .finish })]

/-- The dialogue under `b` gives way to the one under `a`, which itself stays as it was.  Keys are kept. -/
theorem finish_driftedTalk :
    (ofTree driftedTalk).finish.dialogues.keys = driftedTalk.dialogues.keys ∧
      (driftedTalk.dialogues.get? "b").map (fun stored => (stored.text, stored.actions)) = some ("Me.", ["y"]) ∧
        ((ofTree driftedTalk).finish.dialogues.get? "b").map (fun linked => (linked.text, linked.actions)) =
            some ("Who?", ["x"]) ∧
          ∃ added, (ofTree driftedTalk).finish.dialogues.get? "a" =
            some (Dialogue.withActions { id := "b", text := "Who?" } added) := by
  obtain ⟨_, _, keys, _, kept⟩ := finish_supplied driftedTalk
  refine ⟨keys, by cbv, by cbv, kept "a" _ (by cbv) ?_⟩
  have values : driftedTalk.actions.values = [{ id := "x", owner := "a", next := .finish }] := by cbv
  rw [values, List.forall_mem_singleton]
  rintro ⟨_, elsewhere, _⟩
  exact elsewhere rfl

end Draft
end Parley
