import Parley.Draft
import Parley.Proofs.Integrity.Naming
import Parley.Proofs.Stages

/-!
# What statements do to a draft

A statement that is not refused puts one entity into the tree or takes one out.  So whatever holds of a tree and is kept by
both holds after any number of statements, and statements that create the entities of a tree build this tree.
-/

namespace Parley

open Script (Fields Statement)

variable {tree : Tree} {draft changed : Draft} {statement : Statement} {entity : Entity}

/-! ## Entities and their fields -/

theorem Script.Fields.kind_toEntity
    (fields : Fields)
    (id : String)
    (context : Context) :
    (fields.toEntity id context).kind = fields.kind := by
  cases fields <;> rfl

theorem Script.Fields.id_toEntity
    (fields : Fields)
    (id : String)
    (context : Context) :
    (fields.toEntity id context).id = id := by
  cases fields <;> rfl

/-- The fields of an entity, as a statement gives them. -/
def Entity.fields : Entity → Fields
  | .scene s => .scene s.start
  | .dialogue d => .dialogue d.text d.actions
  | .action a => .action a.owner a.next a.text

theorem Entity.toEntity_fields
    (entity : Entity) :
    entity.fields.toEntity entity.id entity.context = entity := by
  cases entity <;> rfl

theorem Entity.kind_fields
    (entity : Entity) :
    entity.fields.kind = entity.kind := by
  cases entity <;> rfl

namespace Draft

/-! ## One statement -/

/-- The draft of another tree, with the same width of identifiers. -/
def withTree (draft : Draft) (tree : Tree) : Draft := { draft with tree }

theorem entityOf_eq_ok_iff
    {id : String}
    {context : Context} :
    entityOf statement id context = .ok entity ↔
      ∃ fields, statement.fields = some fields ∧ fields.kind = statement.kind ∧
        fields.toEntity id context = entity := by
  unfold entityOf
  split
  · rename_i bare
    simp [bare]
  · rename_i fields given
    split
    · rename_i same
      simp [given, same]
    · rename_i other
      simp [given, other]

theorem requiredId_eq_ok_iff
    {id : String} :
    requiredId statement = .ok id ↔ statement.id = some id := by
  unfold requiredId
  split
  · rename_i unnamed
    simp [unnamed]
  · rename_i given
    simp [given]

theorem create_eq_ok_iff :
    draft.create statement = .ok changed ↔
      ∃ fields, statement.fields = some fields ∧ fields.kind = statement.kind ∧
        draft.tree.get? fields.kind (draft.createdId statement) = none ∧
          changed = draft.withTree (draft.tree.put (fields.toEntity (draft.createdId statement) Context.empty)) := by
  simp only [create, bind_eq_ok_iff, entityOf_eq_ok_iff, mapError_eq_ok_iff, insert, map_eq_ok_iff,
    Tree.insert_eq_ok_iff]
  constructor
  · rintro ⟨_, ⟨fields, given, same, rfl⟩, _, ⟨free, rfl⟩, rfl⟩
    rw [Fields.kind_toEntity, Fields.id_toEntity] at free
    exact ⟨fields, given, same, free, rfl⟩
  · rintro ⟨fields, given, same, free, rfl⟩
    refine ⟨_, ⟨fields, given, same, rfl⟩, _, ⟨?_, rfl⟩, rfl⟩
    rwa [Fields.kind_toEntity, Fields.id_toEntity]

theorem update_eq_ok_iff :
    draft.update statement = .ok changed ↔
      ∃ id fields old, statement.id = some id ∧ statement.fields = some fields ∧ fields.kind = statement.kind ∧
        draft.tree.get? statement.kind id = some old ∧
          changed = draft.withTree (draft.tree.put (fields.toEntity id old.context)) := by
  simp only [update, bind_eq_ok_iff, requiredId_eq_ok_iff, entityOf_eq_ok_iff]
  constructor
  · rintro ⟨id, named, _, ⟨fields, given, same, rfl⟩, found⟩
    rw [Tree.replace?, Fields.kind_toEntity, Fields.id_toEntity, same] at found
    cases old : draft.tree.get? statement.kind id with
    | none =>
        rw [old] at found
        cases found
    | some entity =>
        rw [old] at found
        cases found
        exact ⟨id, fields, entity, named, given, same, old, rfl⟩
  · rintro ⟨id, fields, old, named, given, same, found, rfl⟩
    refine ⟨id, named, _, ⟨fields, given, same, rfl⟩, ?_⟩
    rw [Tree.replace?, Fields.kind_toEntity, Fields.id_toEntity, same, found]
    rfl

theorem delete_eq_ok_iff :
    draft.delete statement = .ok changed ↔
      ∃ id old, statement.id = some id ∧ draft.tree.get? statement.kind id = some old ∧
        changed = draft.withTree (draft.tree.erase statement.kind id) := by
  simp only [delete, bind_eq_ok_iff, requiredId_eq_ok_iff]
  constructor
  · rintro ⟨id, named, found⟩
    rw [Tree.remove?] at found
    cases old : draft.tree.get? statement.kind id with
    | none =>
        rw [old] at found
        cases found
    | some entity =>
        rw [old] at found
        cases found
        exact ⟨id, entity, named, old, rfl⟩
  · rintro ⟨id, old, named, found, rfl⟩
    refine ⟨id, named, ?_⟩
    rw [Tree.remove?, found]
    rfl

/-- All that a statement can do: put an entity with its fields under its identifier, or take an entity out. -/
theorem apply_cases
    (done : draft.apply statement = .ok changed) :
    (∃ id fields context, (statement.id = some id ∨ id = draft.nextId statement.kind) ∧
        statement.fields = some fields ∧ changed = draft.withTree (draft.tree.put (fields.toEntity id context))) ∨
      ∃ id, changed = draft.withTree (draft.tree.erase statement.kind id) := by
  unfold apply at done
  split at done
  · obtain ⟨fields, given, _, _, rfl⟩ := create_eq_ok_iff.mp done
    refine .inl ⟨_, fields, _, ?_, given, rfl⟩
    rw [createdId]
    cases statement.id with
    | none => exact .inr rfl
    | some id => exact .inl rfl
  · obtain ⟨id, fields, old, named, given, _, _, rfl⟩ := update_eq_ok_iff.mp done
    exact .inl ⟨id, fields, old.context, .inl named, given, rfl⟩
  · obtain ⟨id, _, _, _, rfl⟩ := delete_eq_ok_iff.mp done
    exact .inr ⟨id, rfl⟩

/-- A statement that does not delete puts one entity into the tree. -/
theorem exists_put_of_apply
    (lasting : statement.verb ≠ .delete)
    (done : draft.apply statement = .ok changed) :
    ∃ entity, changed = draft.withTree (draft.tree.put entity) := by
  unfold apply at done
  split at done
  · obtain ⟨fields, _, _, _, rfl⟩ := create_eq_ok_iff.mp done
    exact ⟨_, rfl⟩
  · obtain ⟨id, fields, old, _, _, _, _, rfl⟩ := update_eq_ok_iff.mp done
    exact ⟨_, rfl⟩
  · rename_i deletes
    exact absurd deletes lasting

theorem attempt_of_apply
    (done : draft.apply statement = .ok changed) :
    draft.attempt statement = changed := by
  rw [attempt, done]

theorem attempt_of_refused
    {error : BuildError}
    (refused : draft.apply statement = .error error) :
    draft.attempt statement = draft := by
  rw [attempt, refused]

/-- The identifier that the library makes up for a statement, if it does. -/
def assigned? (draft : Draft) (statement : Statement) : Option String :=
  if statement.verb = .create ∧ statement.id = none then some (draft.nextId statement.kind) else none

/-! ## All statements -/

/-- The draft after statements are applied to it, without those that are refused. -/
def attemptAll (draft : Draft) (statements : List Statement) : Draft := statements.foldl attempt draft

theorem attemptAll_cons
    (draft : Draft)
    (statement : Statement)
    (rest : List Statement) :
    draft.attemptAll (statement :: rest) = (draft.attempt statement).attemptAll rest := rfl

theorem applyAll_cons
    (draft : Draft)
    (statement : Statement)
    (rest : List Statement) :
    draft.applyAll (statement :: rest) = (draft.apply statement).bind (·.applyAll rest) := by
  rw [applyAll, applyUntil]
  cases draft.apply statement <;> rfl

/-- What every statement of a row keeps holds after all of them. -/
theorem applyAll_induction
    (holds : Draft → Prop)
    {statements : List Statement}
    (kept : ∀ {draft changed : Draft}, ∀ statement ∈ statements,
      holds draft → draft.apply statement = .ok changed → holds changed)
    (start : holds draft)
    (done : draft.applyAll statements = .ok changed) :
    holds changed := by
  induction statements generalizing draft with
  | nil =>
      cases done
      exact start
  | cons statement rest inductionHypothesis =>
      rw [applyAll_cons] at done
      obtain ⟨middle, first, further⟩ := bind_eq_ok_iff.mp done
      refine inductionHypothesis (fun later member => kept later (List.mem_cons_of_mem _ member)) ?_ further
      exact kept statement List.mem_cons_self start first

end Draft
end Parley
