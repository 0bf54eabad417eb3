import Parley.Proofs.Draft.Steps
import Parley.Proofs.Tree.Bare

/-!
# Drafts do not look at contexts

A draft without its developer data goes the same way as the draft itself: it refuses the same statements for the same
reasons, makes up the same identifiers, and is finished to the same tree without developer data.
-/

namespace Parley

open Script (Fields Statement)

theorem Script.Fields.bare_toEntity
    (fields : Fields)
    (id : String)
    (context : Context) :
    (fields.toEntity id context).bare = fields.toEntity id Context.empty := by
  cases fields <;> rfl

/-! ## Changes of a tree -/

namespace Tree

theorem insert_bare
    (tree : Tree)
    (entity : Entity) :
    tree.bare.insert entity.bare = (tree.insert entity).map bare := by
  rw [insert, insert, contains_bare, Entity.kind_bare, Entity.id_bare]
  split
  · rfl
  · rw [← bare_put]
    rfl

theorem replace?_bare
    (tree : Tree)
    (entity : Entity) :
    tree.bare.replace? entity.bare = (tree.replace? entity).map fun (old, changed) => (old.bare, changed.bare) := by
  rw [replace?, replace?, get?_bare, Entity.kind_bare, Entity.id_bare, ← bare_put]
  cases tree.get? entity.kind entity.id <;> rfl

theorem remove?_bare
    (tree : Tree)
    (kind : Kind)
    (id : String) :
    tree.bare.remove? kind id = (tree.remove? kind id).map fun (old, changed) => (old.bare, changed.bare) := by
  rw [remove?, remove?, get?_bare, ← bare_erase]
  cases tree.get? kind id <;> rfl

end Tree

namespace Draft

variable {draft : Draft} {statement : Statement}

/-- The draft without developer data. -/
def bare (draft : Draft) : Draft := draft.withTree draft.tree.bare

/-! ## One statement -/

theorem nextId_bare
    (draft : Draft)
    (kind : Kind) :
    draft.bare.nextId kind = draft.nextId kind := by
  have taken : draft.bare.takenNumbers kind = draft.takenNumbers kind := by
    rw [takenNumbers, bare, withTree, Tree.ids_bare, Tree.references_bare, takenNumbers]
  rw [nextId, taken]
  rfl

theorem createdId_bare
    (draft : Draft)
    (statement : Statement) :
    draft.bare.createdId statement = draft.createdId statement := by
  rw [createdId, nextId_bare, createdId]

theorem create_bare
    (draft : Draft)
    (statement : Statement) :
    draft.bare.create statement = (draft.create statement).map bare := by
  rw [create, create, createdId_bare, entityOf]
  split
  · rfl
  · rename_i fields _
    split
    · have inserted := draft.tree.insert_bare (fields.toEntity (draft.createdId statement) Context.empty)
      rw [Fields.bare_toEntity] at inserted
      simp only [bind, Except.bind, insert, bare, withTree, inserted]
      cases draft.tree.insert (fields.toEntity (draft.createdId statement) Context.empty) <;> rfl
    · rfl

theorem update_bare
    (draft : Draft)
    (statement : Statement) :
    draft.bare.update statement = (draft.update statement).map bare := by
  unfold update requiredId entityOf
  cases statement.id with
  | none => rfl
  | some id =>
      cases statement.fields with
      | none => rfl
      | some fields =>
          by_cases same : fields.kind = statement.kind
          · -- The context that stays is the only thing that tells the two entities apart.
            have kept (tree : Tree) : (Tree.bare tree).replace? (fields.toEntity id
                (((Tree.bare tree).get? statement.kind id).elim Context.empty Entity.context)) =
                (tree.replace? (fields.toEntity id ((tree.get? statement.kind id).elim Context.empty Entity.context))).map
                  fun (old, changed) => (old.bare, changed.bare) := by
              rw [← Tree.replace?_bare, Fields.bare_toEntity, Tree.get?_bare]
              cases tree.get? statement.kind id with
              | none => rfl
              | some old => rw [Option.map_some, Option.elim_some, Entity.context_bare]
            simp only [bind, Except.bind, same, if_true, bare, withTree, kept]
            cases draft.tree.replace? _ <;> rfl
          · simp only [bind, Except.bind, same, if_false]
            rfl

theorem delete_bare
    (draft : Draft)
    (statement : Statement) :
    draft.bare.delete statement = (draft.delete statement).map bare := by
  unfold delete requiredId
  cases statement.id with
  | none => rfl
  | some id =>
      simp only [bind, Except.bind, bare, withTree, Tree.remove?_bare]
      cases draft.tree.remove? statement.kind id <;> rfl

/-- A statement does the same to a draft without its developer data. -/
theorem apply_bare
    (draft : Draft)
    (statement : Statement) :
    draft.bare.apply statement = (draft.apply statement).map bare := by
  unfold apply
  cases statement.verb with
  | create => exact draft.create_bare statement
  | update => exact draft.update_bare statement
  | delete => exact draft.delete_bare statement

theorem attempt_bare
    (draft : Draft)
    (statement : Statement) :
    draft.bare.attempt statement = (draft.attempt statement).bare := by
  rw [attempt, apply_bare, attempt]
  cases draft.apply statement <;> rfl

/-! ## Statements one after the other -/

/-- What can be told of a draft while statements are applied to it, going on after those that are refused: for each of
them, whether it was done or why not, and the identifier that was made up for it. -/
def history (draft : Draft) : List Statement → List (Except BuildError Unit × Option String)
  | [] => []
  | statement :: rest =>
    ((draft.apply statement).map (fun _ => ()), draft.assigned? statement) :: (draft.attempt statement).history rest

theorem history_bare
    (draft : Draft)
    (statements : List Statement) :
    draft.bare.history statements = draft.history statements := by
  induction statements generalizing draft with
  | nil => rfl
  | cons statement rest inductionHypothesis =>
      have result : (draft.bare.apply statement).map (fun _ => ()) = (draft.apply statement).map fun _ => () := by
        rw [apply_bare]
        cases draft.apply statement <;> rfl
      rw [history, history, result, assigned?, nextId_bare, ← assigned?, attempt_bare, inductionHypothesis]

theorem attemptAll_bare
    (draft : Draft)
    (statements : List Statement) :
    draft.bare.attemptAll statements = (draft.attemptAll statements).bare :=
  List.foldl_hom bare fun draft statement => draft.attempt_bare statement

/-! ## Finishing -/

theorem isUnlisted_bare
    (tree : Tree)
    (action : Action) :
    isUnlisted tree.bare action.bare = isUnlisted tree action := by
  unfold isUnlisted
  rw [Tree.dialogues_get?_bare, Action.owner_bare]
  cases tree.dialogues.get? action.owner <;> rfl

theorem link_bare
    (tree : Tree)
    (action : Action) :
    link tree.bare action.bare = (link tree action).bare := by
  unfold link
  rw [Tree.dialogues_get?_bare, Action.owner_bare]
  cases tree.dialogues.get? action.owner with
  | none => rfl
  | some owner =>
      have replaced := tree.replace?_bare (.dialogue (owner.withAction action.id))
      have linked : (Entity.dialogue (owner.withAction action.id)).bare = .dialogue (owner.bare.withAction action.id) := rfl
      rw [linked] at replaced
      simp only [Option.map_some, Action.id_bare, replaced]
      cases tree.replace? (.dialogue (owner.withAction action.id)) <;> rfl

/-- Finishing a draft without its developer data gives the finished tree without them. -/
theorem finish_bare
    (draft : Draft) :
    draft.bare.finish = draft.finish.bare := by
  have unlisted : (draft.tree.actions.values.map Action.bare).filter (isUnlisted draft.tree.bare) =
      (draft.tree.actions.values.filter (isUnlisted draft.tree)).map Action.bare := by
    rw [List.filter_map]
    congr 2
    funext action
    exact isUnlisted_bare draft.tree action
  have linked (actions : List Action) (tree : Tree) :
      (actions.map Action.bare).foldl link tree.bare = (actions.foldl link tree).bare := by
    rw [List.foldl_map]
    exact List.foldl_hom Tree.bare fun tree action => link_bare tree action
  rw [finish, bare, withTree, Tree.actions_values_bare, unlisted, linked, finish]

end Draft
end Parley
