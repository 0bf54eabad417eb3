import Mathlib
import Parley.Proofs.Draft.Assignment
import Parley.Proofs.Draft.Finish

/-!
# Contexts while a draft is edited

Statements say nothing about contexts.  Under every kind and identifier the context of a draft stays what it was, whatever is
created, updated, refused or finished, until the entity is deleted; what is created, then or for the first time, has the empty
context.
-/

namespace Parley

open Script (Statement)

variable {tree : Tree} {entity : Entity} {kind : Kind} {id : String}

theorem Script.Fields.context_toEntity
    (fields : Fields)
    (id : String)
    (context : Context) :
    (fields.toEntity id context).context = context := by
  cases fields <;> rfl

/-! ## The context under a name -/

namespace Tree

/-- The context of what a kind has under an identifier, and the empty context if it has nothing there. -/
def contextAt (tree : Tree) (kind : Kind) (id : String) : Context :=
  (tree.get? kind id).elim Context.empty Entity.context

theorem contextAt_of_get?
    (found : tree.get? kind id = some entity) :
    tree.contextAt kind id = entity.context := by
  rw [contextAt, found, Option.elim_some]

theorem contextAt_of_none
    (missing : tree.get? kind id = none) :
    tree.contextAt kind id = Context.empty := by
  rw [contextAt, missing, Option.elim_none]

/-- An entity with the context under its name is put there without a change to any context. -/
theorem contextAt_put
    (same : entity.context = tree.contextAt entity.kind entity.id)
    (kind : Kind)
    (id : String) :
    (tree.put entity).contextAt kind id = tree.contextAt kind id := by
  rw [contextAt, get?_put]
  split_ifs with here
  · rw [Option.elim_some, same, here.1, here.2]
  · rfl

theorem contextAt_erase
    (tree : Tree)
    (erased : Kind)
    (name : String) :
    (tree.erase erased name).contextAt kind id =
      if kind = erased ∧ id = name then Context.empty else tree.contextAt kind id := by
  rw [contextAt, get?_erase]
  split_ifs <;> rfl

end Tree

namespace Draft

variable {draft changed : Draft} {statement : Statement} {statements : List Statement} {step : Step}

/-! ## One statement -/

/-- The statement of a step deletes what a kind has under an identifier, and is not refused. -/
structure Step.Deletes (step : Step) (kind : Kind) (id : String) : Prop where
  verb_eq : step.statement.verb = .delete
  kind_eq : step.statement.kind = kind
  id_eq : step.statement.id = some id
  applied : ∃ changed, step.draft.apply step.statement = .ok changed

/-- A statement that is carried out and does not delete leaves all contexts as they are. -/
theorem contextAt_of_apply
    (lasting : statement.verb ≠ .delete)
    (done : draft.apply statement = .ok changed)
    (kind : Kind)
    (id : String) :
    changed.tree.contextAt kind id = draft.tree.contextAt kind id := by
  unfold apply at done
  split at done
  · obtain ⟨fields, _, _, free, rfl⟩ := create_eq_ok_iff.mp done
    refine Tree.contextAt_put ?_ kind id
    rw [Script.Fields.context_toEntity, Script.Fields.kind_toEntity, Script.Fields.id_toEntity,
      Tree.contextAt_of_none free]
  · obtain ⟨name, fields, old, _, _, same, found, rfl⟩ := update_eq_ok_iff.mp done
    refine Tree.contextAt_put ?_ kind id
    rw [Script.Fields.context_toEntity, Script.Fields.kind_toEntity, Script.Fields.id_toEntity, same,
      Tree.contextAt_of_get? found]
  · rename_i deletes
    exact absurd deletes lasting

/-- A step that deletes an entity leaves no context under its name. -/
theorem Step.Deletes.contextAt_after
    (deletes : step.Deletes kind id) :
    step.after.tree.contextAt kind id = Context.empty := by
  obtain ⟨changed, done⟩ := deletes.applied
  rw [after, attempt_of_apply done]
  rw [apply, deletes.verb_eq] at done
  obtain ⟨name, _, named, _, rfl⟩ := delete_eq_ok_iff.mp done
  obtain rfl : id = name := Option.some.inj (deletes.id_eq.symm.trans named)
  exact (Tree.contextAt_erase _ _ _).trans (if_pos ⟨deletes.kind_eq.symm, rfl⟩)

/-- Any other step leaves the context under the name as it is. -/
theorem Step.contextAt_after
    (keeps : ¬step.Deletes kind id) :
    step.after.tree.contextAt kind id = step.draft.tree.contextAt kind id := by
  cases done : step.draft.apply step.statement with
  | error error => rw [after, attempt_of_refused done]
  | ok changed =>
      rw [after, attempt_of_apply done]
      by_cases deletes : step.statement.verb = .delete
      · have carriedOut := done
        rw [apply, deletes] at done
        obtain ⟨name, _, named, _, rfl⟩ := delete_eq_ok_iff.mp done
        refine (Tree.contextAt_erase _ _ _).trans (if_neg ?_)
        rintro ⟨rfl, rfl⟩
        exact keeps ⟨deletes, rfl, named, _, carriedOut⟩
      · exact contextAt_of_apply deletes done kind id

/-! ## All statements -/

theorem contextAt_attemptAll
    (keeps : ∀ step ∈ draft.steps statements, ¬step.Deletes kind id) :
    (draft.attemptAll statements).tree.contextAt kind id = draft.tree.contextAt kind id := by
  induction statements generalizing draft with
  | nil => rfl
  | cons statement rest inductionHypothesis =>
      obtain ⟨first, further⟩ := List.forall_mem_cons.mp keeps
      exact (inductionHypothesis further).trans (Step.contextAt_after first)

/-- Where there is no context, none appears. -/
theorem contextAt_attemptAll_of_empty
    (empty : draft.tree.contextAt kind id = Context.empty) :
    (draft.attemptAll statements).tree.contextAt kind id = Context.empty := by
  induction statements generalizing draft with
  | nil => exact empty
  | cons statement rest inductionHypothesis =>
      refine inductionHypothesis ?_
      by_cases deletes : (⟨draft, statement⟩ : Step).Deletes kind id
      · exact deletes.contextAt_after
      · exact (Step.contextAt_after deletes).trans empty

theorem contextAt_attemptAll_of_deletes
    (member : step ∈ draft.steps statements)
    (deletes : step.Deletes kind id) :
    (draft.attemptAll statements).tree.contextAt kind id = Context.empty := by
  induction statements generalizing draft with
  | nil => cases member
  | cons statement rest inductionHypothesis =>
      rcases List.mem_cons.mp member with rfl | further
      · rw [attemptAll_cons]
        exact contextAt_attemptAll_of_empty deletes.contextAt_after
      · exact inductionHypothesis further

theorem statement_of_mem_steps
    (member : step ∈ draft.steps statements) :
    step.statement ∈ statements := by
  induction statements generalizing draft with
  | nil => cases member
  | cons statement rest inductionHypothesis =>
      rcases List.mem_cons.mp member with rfl | further
      · exact List.mem_cons_self
      · exact List.mem_cons_of_mem _ (inductionHypothesis further)

theorem keyed_attempt
    (keyed : draft.tree.Keyed)
    (statement : Statement) :
    (draft.attempt statement).tree.Keyed := by
  cases done : draft.apply statement with
  | error error => rwa [attempt_of_refused done]
  | ok changed =>
      rw [attempt_of_apply done]
      rcases apply_cases done with ⟨id, fields, context, _, _, rfl⟩ | ⟨id, rfl⟩
      · exact keyed.put _
      · exact keyed.erase _ _

theorem keyed_attemptAll
    (keyed : draft.tree.Keyed)
    (statements : List Statement) :
    (draft.attemptAll statements).tree.Keyed := by
  induction statements generalizing draft with
  | nil => exact keyed
  | cons statement rest inductionHypothesis => exact inductionHypothesis (keyed_attempt keyed statement)

/-! ## Finishing -/

/-- Finishing a draft touches no context. -/
theorem contextAt_finish
    (keyed : draft.tree.Keyed)
    (kind : Kind)
    (id : String) :
    draft.finish.contextAt kind id = draft.tree.contextAt kind id := by
  obtain ⟨scenes, actions, _⟩ := finish_frame draft
  cases kind with
  | scene => rw [Tree.contextAt, Tree.contextAt, Tree.get?, Tree.get?, scenes]
  | dialogue =>
      rw [Tree.contextAt, Tree.contextAt, Tree.get?, Tree.get?, dialogues_get?_finish keyed]
      cases draft.tree.dialogues.get? id <;> rfl
  | action => rw [Tree.contextAt, Tree.contextAt, Tree.get?, Tree.get?, actions]

/-- Where entities stand under their own identifiers, an entity of a finished draft has the context that the tree held under
its kind and identifier, unless a statement deleted it in between, and the empty context if one did or if the tree held
nothing there.  Refused statements are passed over. -/
theorem finish_keeps_contexts
    (keyed : tree.Keyed)
    (statements : List Statement)
    (found : ((ofTree tree).attemptAll statements).finish.get? kind id = some entity) :
    entity.id = id ∧
      (∀ held, tree.get? kind id = some held →
        (∀ step ∈ (ofTree tree).steps statements, ¬step.Deletes kind id) → entity.context = held.context) ∧
      (tree.get? kind id = none ∨ (∃ step ∈ (ofTree tree).steps statements, step.Deletes kind id) →
        entity.context = Context.empty) := by
  have edited : ((ofTree tree).attemptAll statements).tree.Keyed := keyed_attemptAll keyed statements
  have context := (Tree.contextAt_of_get? found).symm.trans (contextAt_finish edited kind id)
  refine ⟨(keyed_foldl_link edited _).id_eq found, fun held there keeps => ?_, ?_⟩
  · rw [context, contextAt_attemptAll keeps]
    exact Tree.contextAt_of_get? there
  · rintro (missing | ⟨step, member, deletes⟩)
    · rw [context, contextAt_attemptAll_of_empty (Tree.contextAt_of_none missing)]
    · rw [context, contextAt_attemptAll_of_deletes member deletes]

/-- Two dialogues with contexts. -/
def moodyTalk : Tree where
  dialogues := .ofList
    [("a", { id := "a", text := "Hm?", context := .ofFields [("mood", .string "grim")] }),
      ("b", { id := "b", text := "Ho!", context := .ofFields [("mood", .null)] })]

theorem keyed_moodyTalk : moodyTalk.Keyed :=
  (Tree.named_empty.keyed.put
    (.dialogue { id := "a", text := "Hm?", context := .ofFields [("mood", .string "grim")] })).put
      (.dialogue { id := "b", text := "Ho!", context := .ofFields [("mood", .null)] })

/-- Both dialogues are retold: the first is updated, though its creation is refused, and the second is deleted first. -/
def retellings : List Statement :=
  [⟨1, .create, .dialogue, some "a", some (.dialogue "Well?" []), .start⟩,
    ⟨2, .update, .dialogue, some "a", some (.dialogue "Well?" []), .start⟩,
    ⟨3, .delete, .dialogue, some "b", none, .start⟩,
    ⟨4, .create, .dialogue, some "b", some (.dialogue "Well!" []), .start⟩]

/-- The first dialogue has its mood still, and the second one has none. -/
theorem finish_moodyTalk :
    moodyTalk.Keyed ∧ ∃ first second,
      ((ofTree moodyTalk).attemptAll retellings).finish.get? .dialogue "a" = some first ∧
        ((ofTree moodyTalk).attemptAll retellings).finish.get? .dialogue "b" = some second ∧
          first.context = .ofFields [("mood", .string "grim")] ∧ second.context = Context.empty := by
  have firstThere : (((ofTree moodyTalk).attemptAll retellings).finish.get? .dialogue "a").isSome = true := by
    decide +kernel
  have secondThere : (((ofTree moodyTalk).attemptAll retellings).finish.get? .dialogue "b").isSome = true := by
    decide +kernel
  obtain ⟨first, firstFound⟩ := Option.isSome_iff_exists.mp firstThere
  obtain ⟨second, secondFound⟩ := Option.isSome_iff_exists.mp secondThere
  obtain ⟨_, kept, _⟩ := finish_keeps_contexts keyed_moodyTalk retellings firstFound
  obtain ⟨_, _, emptied⟩ := finish_keeps_contexts keyed_moodyTalk retellings secondFound
  have spared : ∀ statement ∈ retellings, statement.verb = .delete → statement.id ≠ some "a" := by decide
  have keeps : ∀ step ∈ (ofTree moodyTalk).steps retellings, ¬step.Deletes .dialogue "a" := fun step member deletes =>
    spared _ (statement_of_mem_steps member) deletes.verb_eq deletes.id_eq
  have deleted : ∃ step ∈ (ofTree moodyTalk).steps retellings, step.Deletes .dialogue "b" := by
    refine ⟨_, List.mem_cons_of_mem _ (List.mem_cons_of_mem _ List.mem_cons_self), rfl, rfl, rfl, ?_⟩
    exact ⟨_, delete_eq_ok_iff.mpr ⟨"b", _, rfl, by cbv, rfl⟩⟩
  have held : moodyTalk.get? .dialogue "a" =
      some (.dialogue { id := "a", text := "Hm?", context := .ofFields [("mood", .string "grim")] }) := by
    cbv
  exact ⟨keyed_moodyTalk, first, second, firstFound, secondFound, kept _ held keeps, emptied (.inr deleted)⟩

end Draft
end Parley
