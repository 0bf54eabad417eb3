import Parley.Proofs.Draft.Linking
import Parley.Proofs.Integrity.Naming
import Parley.Proofs.Integrity.Unlisted

/-!
# Finishing a draft

Where every entity stands under its own identifier, finishing a draft adds to the list of every dialogue the actions that it
owns and does not list, in the order of their table, and changes nothing else.  Then no action is missing from the list of
its owner, so a finished tree is finished again as it is.
-/

namespace Parley
namespace Draft

open Integrity (check)

variable {tree : Tree} {draft : Draft} {action : Action} {owner dialogue : Dialogue} {key : String}

/-! ## One action -/

theorem link_of_keyed
    (keyed : tree.Keyed)
    (found : tree.dialogues.get? action.owner = some owner) :
    link tree action = tree.put (.dialogue (owner.withAction action.id)) := by
  refine link_of_owner found (Table.mem_keys_iff.mpr ⟨owner, ?_⟩)
  rwa [keyed.dialogue_id found]

theorem keyed_link
    (keyed : tree.Keyed)
    (action : Action) :
    (link tree action).Keyed := by
  rcases link_cases tree action with same | ⟨owner, _, _, linked⟩
  · rwa [same]
  · rw [linked]
    exact keyed.put _

/-- Entering an action adds it to the list of its owner and leaves the other dialogues as they are. -/
theorem dialogues_get?_link
    (keyed : tree.Keyed)
    (action : Action)
    (key : String) :
    (link tree action).dialogues.get? key =
      (tree.dialogues.get? key).map fun dialogue =>
        if action.owner = key then dialogue.withAction action.id else dialogue := by
  cases found : tree.dialogues.get? action.owner with
  | none =>
      rw [link_of_none found]
      split_ifs with here
      · rw [← here, found, Option.map_none]
      · rw [Option.map_id']
  | some owner =>
      have stored := Table.get?_insert tree.dialogues owner.id key (owner.withAction action.id)
      rw [link_of_keyed keyed found]
      refine stored.trans ?_
      rw [keyed.dialogue_id found]
      split_ifs with here other other
      · rw [here, found, Option.map_some]
      · exact absurd here.symm other
      · exact absurd other.symm here
      · rw [Option.map_id']

/-! ## All actions -/

theorem dialogues_get?_foldl_link
    (keyed : tree.Keyed)
    (actions : List Action)
    (key : String) :
    (actions.foldl link tree).dialogues.get? key =
      (tree.dialogues.get? key).map fun dialogue =>
        dialogue.withActions ((actions.filter (·.owner = key)).map Action.id) := by
  induction actions generalizing tree with
  | nil => simp [Dialogue.withActions_nil]
  | cons action rest inductionHypothesis =>
      rw [List.foldl_cons, inductionHypothesis (keyed_link keyed action), dialogues_get?_link keyed, Option.map_map,
        List.filter_cons]
      congr 1
      funext dialogue
      by_cases here : action.owner = key
      · simp [here, Dialogue.withAction_withActions]
      · simp [here]

/-- The identifiers of the actions that a dialogue owns and does not list, in the order of their table. -/
def unlistedIds (tree : Tree) (key : String) : List String :=
  ((tree.actions.values.filter (isUnlisted tree)).filter (·.owner = key)).map Action.id

theorem dialogues_get?_finish
    (keyed : draft.tree.Keyed)
    (key : String) :
    draft.finish.dialogues.get? key =
      (draft.tree.dialogues.get? key).map (·.withActions (unlistedIds draft.tree key)) :=
  dialogues_get?_foldl_link keyed _ key

theorem pairwise_unlistedIds
    (keyed : tree.Keyed)
    (key : String) :
    (unlistedIds tree key).Pairwise (· < ·) := by
  have increasing := Tree.pairwise_values tree.actions Action.id keyed.action_id
  exact List.pairwise_map.mpr ((increasing.filter _).filter _)

theorem mem_unlistedIds_iff
    {id : String}
    (keyed : tree.Keyed)
    (found : tree.dialogues.get? key = some dialogue) :
    id ∈ unlistedIds tree key ↔
      id ∉ dialogue.actions ∧ ∃ action, tree.actions.get? id = some action ∧ action.owner = key := by
  simp only [unlistedIds, List.mem_map, List.mem_filter, Table.mem_values_iff, isUnlisted_iff, decide_eq_true_eq]
  constructor
  · rintro ⟨action, ⟨⟨⟨stored, there⟩, owner, ownerFound, missing⟩, rfl⟩, rfl⟩
    cases found.symm.trans ownerFound
    rw [keyed.action_id there] at missing ⊢
    exact ⟨missing, action, there, rfl⟩
  · rintro ⟨missing, action, there, rfl⟩
    obtain rfl := keyed.action_id there
    exact ⟨action, ⟨⟨⟨_, there⟩, dialogue, found, missing⟩, rfl⟩, rfl⟩

theorem finish_frame
    (draft : Draft) :
    draft.finish.scenes = draft.tree.scenes ∧ draft.finish.actions = draft.tree.actions ∧
      draft.finish.dialogues.keys = draft.tree.dialogues.keys :=
  foldl_link_frame _ _

/-- In a finished tree no action is missing from the list of its owner. -/
theorem isUnlisted_finish
    (keyed : draft.tree.Keyed) :
    ∀ action ∈ draft.finish.actions.values, isUnlisted draft.finish action = false := by
  intro action member
  rw [(finish_frame draft).2.1] at member
  obtain ⟨id, there⟩ := Table.mem_values_iff.mp member
  rw [← Bool.not_eq_true, isUnlisted_iff]
  rintro ⟨owner, found, missing⟩
  rw [dialogues_get?_finish keyed] at found
  obtain ⟨dialogue, stored, rfl⟩ := Option.map_eq_some_iff.mp found
  obtain ⟨unlisted, notAdded⟩ := List.mem_append.not.mp missing |> not_or.mp
  refine notAdded ((mem_unlistedIds_iff keyed stored).mpr ⟨unlisted, action, ?_, rfl⟩)
  rwa [keyed.action_id there]

theorem keyed_foldl_link
    (keyed : tree.Keyed)
    (actions : List Action) :
    (actions.foldl link tree).Keyed := by
  induction actions generalizing tree with
  | nil => exact keyed
  | cons action rest inductionHypothesis => exact inductionHypothesis (keyed_link keyed action)

/-- Finishing a draft whose names are in order keeps them in order. -/
theorem named_finish
    (named : draft.tree.Named) :
    draft.finish.Named := by
  obtain ⟨scenes, actions, _⟩ := finish_frame draft
  refine ⟨(keyed_foldl_link named.keyed _).id_eq, fun {kind key entity} found => ?_⟩
  cases kind with
  | scene =>
      have stored : draft.tree.get? .scene key = some entity := by rw [← found, Tree.get?, Tree.get?, scenes]
      exact named.spelled stored
  | dialogue =>
      obtain ⟨linked, there, rfl⟩ := Tree.get?_dialogue_eq_some_iff.mp found
      rw [dialogues_get?_finish named.keyed] at there
      obtain ⟨dialogue, stored, rfl⟩ := Option.map_eq_some_iff.mp there
      obtain ⟨idLegal, listedLegal⟩ := Entity.spelled_dialogue_iff.mp
        (named.spelled (Tree.get?_dialogue_eq_some_iff.mpr ⟨dialogue, stored, rfl⟩))
      refine Entity.spelled_dialogue_iff.mpr ⟨idLegal, fun id member => ?_⟩
      rcases List.mem_append.mp member with listed | added
      · exact listedLegal id listed
      · obtain ⟨_, action, owned, _⟩ := (mem_unlistedIds_iff named.keyed stored).mp added
        have spelled := named.spelled (Tree.get?_action_eq_some_iff.mpr ⟨action, owned, rfl⟩)
        rw [← named.keyed.action_id owned]
        exact (Entity.spelled_action_iff.mp spelled).1
  | action =>
      have stored : draft.tree.get? .action key = some entity := by rw [← found, Tree.get?, Tree.get?, actions]
      exact named.spelled stored

/-- A draft with every action in its owner's list is finished. -/
theorem finish_of_listed
    (listed : ∀ action ∈ draft.tree.actions.values, isUnlisted draft.tree action = false) :
    draft.finish = draft.tree := by
  have none : draft.tree.actions.values.filter (isUnlisted draft.tree) = [] :=
    List.filter_eq_nil_iff.mpr fun action member => by rw [listed action member]; exact Bool.false_ne_true
  rw [finish, none, List.foldl_nil]

/-- Where every entity stands under its own identifier, finishing a draft keeps the scenes, the actions and the dialogues but
for their lists.  Each list is followed by the actions that the dialogue owns and does not list, each once and in the order
of the table.  Then the check finds no unlisted action, and finishing again changes nothing. -/
theorem finish_enters_owned
    (keyed : draft.tree.Keyed) :
    draft.finish.scenes = draft.tree.scenes ∧ draft.finish.actions = draft.tree.actions ∧
      draft.finish.dialogues.keys = draft.tree.dialogues.keys ∧
        (∀ key dialogue, draft.tree.dialogues.get? key = some dialogue →
          ∃ added, draft.finish.dialogues.get? key = some (dialogue.withActions added) ∧
            added.Pairwise (· < ·) ∧
              ∀ id, id ∈ added ↔
                id ∉ dialogue.actions ∧ ∃ action, draft.tree.actions.get? id = some action ∧ action.owner = key) ∧
          (∀ rules, (check rules draft.finish).about .unlistedAction = []) ∧
            (ofTree draft.finish).finish = draft.finish := by
  obtain ⟨scenes, actions, keys⟩ := finish_frame draft
  have listed := isUnlisted_finish keyed
  refine ⟨scenes, actions, keys, fun key dialogue found => ?_, Integrity.about_unlistedAction_of_listed listed,
    finish_of_listed listed⟩
  refine ⟨unlistedIds draft.tree key, ?_, pairwise_unlistedIds keyed key, fun id => mem_unlistedIds_iff keyed found⟩
  rw [dialogues_get?_finish keyed, found, Option.map_some]

/-- A dialogue that lists the second of its three actions. -/
def pickTalk : Tree where
  dialogues := .ofList [("1", { id := "1", text := "Pick", actions := ["b"] })]
  actions := .ofList
    [("a", { id := "a", owner := "1", next := .finish }), ("b", { id := "b", owner := "1", next := .finish }),
      ("c", { id := "c", owner := "1", next := .finish })]

theorem keyed_pickTalk : pickTalk.Keyed :=
  (((Tree.named_empty.keyed.put (.dialogue { id := "1", text := "Pick", actions := ["b"] })).put
    (.action { id := "a", owner := "1", next := .finish })).put
      (.action { id := "b", owner := "1", next := .finish })).put (.action { id := "c", owner := "1", next := .finish })

/-- It comes to offer the action that it lists and then the two others, and that stays so. -/
theorem finish_pickTalk :
    pickTalk.Keyed ∧
      (∃ added, (ofTree pickTalk).finish.dialogues.get? "1" =
          some (Dialogue.withActions { id := "1", text := "Pick", actions := ["b"] } added) ∧
        added.Pairwise (· < ·)) ∧
      ((ofTree pickTalk).finish.dialogues.get? "1").map Dialogue.actions = some ["b", "a", "c"] ∧
        (ofTree (ofTree pickTalk).finish).finish = (ofTree pickTalk).finish := by
  have keyed : (ofTree pickTalk).tree.Keyed := keyed_pickTalk
  obtain ⟨_, _, _, entered, _, again⟩ := finish_enters_owned keyed
  obtain ⟨added, linked, increasing, _⟩ := entered "1" _ (by cbv)
  exact ⟨keyed_pickTalk, ⟨added, linked, increasing⟩, by cbv, again⟩

end Draft
end Parley
