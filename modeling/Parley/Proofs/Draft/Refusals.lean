import Mathlib
import Parley.Draft.Edit
import Parley.Proofs.Draft.FreeNumbers
import Parley.Proofs.Draft.Steps
import Parley.Proofs.InPlace
import Parley.Proofs.Script.Parsing

/-!
# Refused statements

A draft refuses a statement that says too little, that creates what is there, or that changes or deletes what is not.  A
refused statement leaves a draft that is changed in place as it was, and a row of statements that is refused leaves it as the
statements in front of the refused one make it.  Statements that were read never say too little, and the identifier of the
library's own that one of them asks for is always free.
-/

namespace Parley

open Script (Fields Statement Verb tokenize parse)

variable {draft changed after : Draft} {statement : Statement} {statements : List Statement} {error : BuildError}
  {entity : Entity} {id : String} {context : Context}

/-- A statement gives the fields of its kind. -/
def Script.Statement.Describes (statement : Statement) : Prop :=
  ∃ fields, statement.fields = some fields ∧ fields.kind = statement.kind

/-- The statement does not say enough. -/
def BuildError.IsIncomplete : BuildError → Prop
  | .incomplete _ _ _ _ => True
  | _ => False

/-- An absent entity is taken out of a tree without a trace. -/
theorem Tree.erase_of_none
    {tree : Tree}
    {kind : Kind}
    {id : String}
    (missing : tree.get? kind id = none) :
    tree.erase kind id = tree := by
  apply Tree.ext_get?
  intro other key
  rw [Tree.get?_erase]
  split_ifs with here
  · rw [here.1, here.2, missing]
  · rfl

namespace Draft

/-- Why a draft refuses a statement. -/
inductive Refuses (draft : Draft) (statement : Statement) : BuildError → Prop
  /-- What is to be changed or deleted is not named. -/
  | unnamed :
      statement.verb ≠ .create → statement.id = none →
        Refuses draft statement (.incomplete statement.index statement.verb statement.kind .identifier)
  /-- What is to be created, or changed under a name, has no fields. -/
  | bare :
      statement.verb ≠ .delete → (statement.verb = .update → statement.id ≠ none) → statement.fields = none →
        Refuses draft statement (.incomplete statement.index statement.verb statement.kind .fields)
  /-- What is to be created, or changed under a name, has fields of another kind. -/
  | unfit {fields : Fields} :
      statement.verb ≠ .delete → (statement.verb = .update → statement.id ≠ none) →
        statement.fields = some fields → fields.kind ≠ statement.kind →
          Refuses draft statement (.incomplete statement.index statement.verb statement.kind .matchingFields)
  /-- What is to be created is there. -/
  | taken :
      statement.verb = .create → statement.Describes →
        draft.tree.get? statement.kind (draft.createdId statement) ≠ none →
          Refuses draft statement (.duplicateId statement.index statement.kind (draft.createdId statement))
  /-- What is to be changed or deleted is not there. -/
  | absent {id : String} :
      statement.verb ≠ .create → statement.id = some id → (statement.verb = .update → statement.Describes) →
        draft.tree.get? statement.kind id = none →
          Refuses draft statement (.notFound statement.index statement.verb statement.kind id)

/-! ## What is refused -/

theorem requiredId_eq_error_iff :
    requiredId statement = .error error ↔
      statement.id = none ∧ error = .incomplete statement.index statement.verb statement.kind .identifier := by
  unfold requiredId
  split
  · rename_i unnamed
    simp [unnamed, eq_comm]
  · rename_i given
    simp [given]

theorem entityOf_eq_error_iff :
    entityOf statement id context = .error error ↔
      (statement.fields = none ∧ error = .incomplete statement.index statement.verb statement.kind .fields) ∨
        ∃ fields, statement.fields = some fields ∧ fields.kind ≠ statement.kind ∧
          error = .incomplete statement.index statement.verb statement.kind .matchingFields := by
  unfold entityOf
  split
  · rename_i bare
    simp [bare, eq_comm]
  · rename_i fields given
    split
    · rename_i same
      simp [given, same]
    · rename_i other
      simp [given, other, eq_comm (a := error)]

theorem insert_eq_error_iff
    {change : DuplicateId → BuildError} :
    (draft.insert entity).mapError change = .error error ↔
      draft.tree.get? entity.kind entity.id ≠ none ∧ error = change ⟨entity.kind, entity.id⟩ := by
  rw [insert, Tree.insert, ne_eq, ← Tree.contains_eq_false_iff, Bool.not_eq_false]
  cases draft.tree.contains entity.kind entity.id <;> simp [Except.mapError, Except.map, eq_comm (a := error)]

theorem create_eq_error_iff :
    draft.create statement = .error error ↔
      (statement.fields = none ∧ error = .incomplete statement.index statement.verb statement.kind .fields) ∨
        (∃ fields, statement.fields = some fields ∧ fields.kind ≠ statement.kind ∧
          error = .incomplete statement.index statement.verb statement.kind .matchingFields) ∨
          statement.Describes ∧ draft.tree.get? statement.kind (draft.createdId statement) ≠ none ∧
            error = .duplicateId statement.index statement.kind (draft.createdId statement) := by
  rw [create, bind_eq_error_iff, entityOf_eq_error_iff, or_assoc]
  refine or_congr_right (or_congr_right ?_)
  simp only [entityOf_eq_ok_iff, insert_eq_error_iff]
  constructor
  · rintro ⟨_, ⟨fields, given, same, rfl⟩, there, rfl⟩
    rw [Fields.kind_toEntity, Fields.id_toEntity, same] at there ⊢
    exact ⟨⟨fields, given, same⟩, there, rfl⟩
  · rintro ⟨⟨fields, given, same⟩, there, rfl⟩
    refine ⟨_, ⟨fields, given, same, rfl⟩, ?_⟩
    rw [Fields.kind_toEntity, Fields.id_toEntity, same]
    exact ⟨there, rfl⟩

theorem update_eq_error_iff :
    draft.update statement = .error error ↔
      (statement.id = none ∧ error = .incomplete statement.index statement.verb statement.kind .identifier) ∨
        ∃ id, statement.id = some id ∧
          ((statement.fields = none ∧ error = .incomplete statement.index statement.verb statement.kind .fields) ∨
            (∃ fields, statement.fields = some fields ∧ fields.kind ≠ statement.kind ∧
              error = .incomplete statement.index statement.verb statement.kind .matchingFields) ∨
              statement.Describes ∧ draft.tree.get? statement.kind id = none ∧ error = absent statement id) := by
  simp only [update, bind_eq_error_iff, requiredId_eq_error_iff, requiredId_eq_ok_iff, entityOf_eq_error_iff,
    entityOf_eq_ok_iff, or_assoc]
  refine or_congr_right (exists_congr fun id => and_congr_right fun _ => or_congr_right (or_congr_right ?_))
  constructor
  · rintro ⟨_, ⟨fields, given, same, rfl⟩, missing⟩
    rw [Tree.replace?, Fields.kind_toEntity, Fields.id_toEntity, same] at missing
    cases found : draft.tree.get? statement.kind id with
    | some old =>
        rw [found] at missing
        cases missing
    | none =>
        rw [found] at missing
        cases missing
        exact ⟨⟨fields, given, same⟩, rfl, rfl⟩
  · rintro ⟨⟨fields, given, same⟩, missing, rfl⟩
    refine ⟨_, ⟨fields, given, same, rfl⟩, ?_⟩
    rw [Tree.replace?, Fields.kind_toEntity, Fields.id_toEntity, same, missing]
    rfl

theorem delete_eq_error_iff :
    draft.delete statement = .error error ↔
      (statement.id = none ∧ error = .incomplete statement.index statement.verb statement.kind .identifier) ∨
        ∃ id, statement.id = some id ∧ draft.tree.get? statement.kind id = none ∧ error = absent statement id := by
  simp only [delete, bind_eq_error_iff, requiredId_eq_error_iff, requiredId_eq_ok_iff, Tree.remove?]
  refine or_congr_right (exists_congr fun id => and_congr_right fun _ => ?_)
  cases draft.tree.get? statement.kind id with
  | none => simp [throw, throwThe, MonadExceptOf.throw, eq_comm (a := error)]
  | some old => simp [pure, Except.pure]

theorem refuses_of_apply
    (refused : draft.apply statement = .error error) :
    draft.Refuses statement error := by
  unfold apply at refused
  split at refused <;> rename_i verb
  · have notDelete : statement.verb ≠ .delete := verb ▸ Verb.noConfusion
    have notUpdate : statement.verb = .update → statement.id ≠ none := verb ▸ Verb.noConfusion
    rcases create_eq_error_iff.mp refused with ⟨bare, rfl⟩ | ⟨fields, given, other, rfl⟩ | ⟨describes, there, rfl⟩
    · exact .bare notDelete notUpdate bare
    · exact .unfit notDelete notUpdate given other
    · exact .taken verb describes there
  · have notCreate : statement.verb ≠ .create := verb ▸ Verb.noConfusion
    have notDelete : statement.verb ≠ .delete := verb ▸ Verb.noConfusion
    rcases update_eq_error_iff.mp refused with ⟨unnamed, rfl⟩ | ⟨id, named, reasons⟩
    · exact .unnamed notCreate unnamed
    · have hasName : statement.verb = .update → statement.id ≠ none := fun _ => named ▸ Option.some_ne_none id
      rcases reasons with ⟨bare, rfl⟩ | ⟨fields, given, other, rfl⟩ | ⟨describes, missing, rfl⟩
      · exact .bare notDelete hasName bare
      · exact .unfit notDelete hasName given other
      · exact .absent notCreate named (fun _ => describes) missing
  · have notCreate : statement.verb ≠ .create := verb ▸ Verb.noConfusion
    rcases delete_eq_error_iff.mp refused with ⟨unnamed, rfl⟩ | ⟨id, named, missing, rfl⟩
    · exact .unnamed notCreate unnamed
    · exact .absent notCreate named (verb ▸ Verb.noConfusion) missing

theorem apply_of_refuses
    (refuses : draft.Refuses statement error) :
    draft.apply statement = .error error := by
  unfold apply
  cases verb : statement.verb with
  | create =>
      refine create_eq_error_iff.mpr ?_
      cases refuses with
      | unnamed notCreate => exact absurd verb notCreate
      | bare _ _ bare => exact .inl ⟨bare, rfl⟩
      | unfit _ _ given other => exact .inr (.inl ⟨_, given, other, rfl⟩)
      | taken _ describes there => exact .inr (.inr ⟨describes, there, rfl⟩)
      | absent notCreate => exact absurd verb notCreate
  | update =>
      refine update_eq_error_iff.mpr ?_
      cases refuses with
      | unnamed _ unnamed => exact .inl ⟨unnamed, rfl⟩
      | bare _ named bare =>
          obtain ⟨id, given⟩ := Option.ne_none_iff_exists'.mp (named verb)
          exact .inr ⟨id, given, .inl ⟨bare, rfl⟩⟩
      | unfit _ named given other =>
          obtain ⟨id, idGiven⟩ := Option.ne_none_iff_exists'.mp (named verb)
          exact .inr ⟨id, idGiven, .inr (.inl ⟨_, given, other, rfl⟩)⟩
      | taken creates => exact Verb.noConfusion (verb.symm.trans creates)
      | absent _ named describes missing => exact .inr ⟨_, named, .inr (.inr ⟨describes verb, missing, rfl⟩)⟩
  | delete =>
      refine delete_eq_error_iff.mpr ?_
      cases refuses with
      | unnamed _ unnamed => exact .inl ⟨unnamed, rfl⟩
      | bare notDelete => exact absurd verb notDelete
      | unfit notDelete => exact absurd verb notDelete
      | taken creates => exact Verb.noConfusion (verb.symm.trans creates)
      | absent _ named _ missing => exact .inr ⟨_, named, missing, rfl⟩

/-- A draft refuses a statement for just these reasons. -/
theorem apply_eq_error_iff :
    draft.apply statement = .error error ↔ draft.Refuses statement error :=
  ⟨refuses_of_apply, apply_of_refuses⟩

/-! ## In place -/

namespace Edit

open InPlace (bind_apply get_apply ofExcept_apply)

/-- A change that is made as a whole or not at all. -/
def whole (draft : Draft) : Except BuildError Draft → EStateM.Result BuildError Draft Unit
  | .ok changed => .ok () changed
  | .error error => .error error draft

theorem insert_eq
    (draft : Draft)
    (index : Nat)
    (entity : Entity) :
    insert index entity draft =
      whole draft ((draft.insert entity).mapError fun duplicate => .duplicateId index duplicate.kind duplicate.id) := by
  simp only [insert, bind_apply, get_apply, Draft.insert, Tree.insert]
  cases draft.tree.contains entity.kind entity.id <;> rfl

theorem replace_eq
    (draft : Draft)
    (entity : Entity) :
    replace entity draft = match draft.tree.replace? entity with
      | some (old, tree) => .ok (some old) (draft.withTree tree)
      | none => .ok none draft := by
  simp only [replace, bind_apply, get_apply, Tree.replace?]
  cases draft.tree.get? entity.kind entity.id <;> rfl

/-- A removal is made even if there is nothing to remove, and then changes nothing. -/
theorem remove_eq
    (draft : Draft)
    (kind : Kind)
    (id : String) :
    remove kind id draft = match draft.tree.remove? kind id with
      | some (old, tree) => .ok (some old) (draft.withTree tree)
      | none => .ok none draft := by
  have removed : remove kind id draft =
      .ok (draft.tree.get? kind id) (draft.withTree (draft.tree.erase kind id)) := rfl
  rw [removed, Tree.remove?]
  cases found : draft.tree.get? kind id with
  | some old => rfl
  | none =>
      rw [Tree.erase_of_none found]
      rfl

theorem entityOf_eq_map
    (statement : Statement)
    (id : String)
    (context : Context) :
    entityOf statement id context = (entityOf statement id Context.empty).map (·.withContext context) := by
  unfold entityOf
  cases statement.fields with
  | none => rfl
  | some fields =>
      simp only
      split_ifs
      · cases fields <;> rfl
      · rfl

theorem create_eq
    (draft : Draft)
    (statement : Statement) :
    create statement draft = whole draft (draft.create statement) := by
  simp only [create, bind_apply, get_apply, ofExcept_apply, Draft.create]
  cases entityOf statement (draft.createdId statement) Context.empty with
  | error error => rfl
  | ok entity => exact insert_eq draft statement.index entity

/-- Exchange an entity for another in a draft, or refuse the statement that asks for it. -/
def exchange (draft : Draft) (statement : Statement) (id : String) (entity : Entity) : Except BuildError Draft :=
  match draft.tree.replace? entity with
  | some (_, tree) => .ok (draft.withTree tree)
  | none => .error (absent statement id)

theorem exchange_eq
    (draft : Draft)
    (statement : Statement)
    (id : String)
    (entity : Entity) :
    (replace entity >>= fun old => if old.isNone then throw (absent statement id) else pure ()) draft =
      whole draft (exchange draft statement id entity) := by
  simp only [bind_apply, replace_eq, exchange]
  cases draft.tree.replace? entity <;> rfl

theorem update_eq
    (draft : Draft)
    (statement : Statement) :
    update statement draft = whole draft (draft.update statement) := by
  cases named : requiredId statement with
  | error error =>
      simp only [update, Draft.update, bind_apply, ofExcept_apply, named]
      rfl
  | ok id =>
      have staged {old : Option Entity} (found : draft.tree.get? statement.kind id = old) :
          draft.update statement = (entityOf statement id (old.elim Context.empty Entity.context)).bind
            (exchange draft statement id) := by
        rw [Draft.update, named, ← found]
        rfl
      simp only [update, bind_apply, get_apply, ofExcept_apply, named]
      cases found : draft.tree.get? statement.kind id with
      | none =>
          rw [staged found, Option.elim_none]
          cases entityOf statement id Context.empty with
          | error error => rfl
          | ok entity =>
              simp only [found]
              exact (bind_apply ..).symm.trans <| exchange_eq draft statement id entity
      | some old =>
          rw [staged found, Option.elim_some, entityOf_eq_map statement id old.context]
          cases entityOf statement id Context.empty with
          | error error => rfl
          | ok entity =>
              simp only [found]
              exact (bind_apply ..).symm.trans <| exchange_eq draft statement id (entity.withContext old.context)

theorem delete_eq
    (draft : Draft)
    (statement : Statement) :
    delete statement draft = whole draft (draft.delete statement) := by
  simp only [delete, bind_apply, ofExcept_apply, Draft.delete]
  cases requiredId statement with
  | error error => rfl
  | ok id =>
      change _ = whole draft (match draft.tree.remove? statement.kind id with
        | some (_, tree) => .ok (draft.withTree tree)
        | none => .error (absent statement id))
      simp only [remove_eq]
      cases draft.tree.remove? statement.kind id <;> rfl

/-- A statement is carried out as a whole, or it is refused and the draft stays as it is. -/
theorem apply_eq
    (draft : Draft)
    (statement : Statement) :
    apply statement draft = whole draft (draft.apply statement) := by
  unfold apply Draft.apply
  cases statement.verb with
  | create => exact create_eq draft statement
  | update => exact update_eq draft statement
  | delete => exact delete_eq draft statement

theorem apply_eq_ok_iff :
    apply statement draft = .ok () changed ↔ draft.apply statement = .ok changed := by
  rw [apply_eq]
  cases draft.apply statement <;> simp [whole]

theorem apply_eq_error_iff :
    apply statement draft = .error error after ↔ draft.Refuses statement error ∧ after = draft := by
  rw [apply_eq, ← Draft.apply_eq_error_iff]
  cases draft.apply statement <;> simp [whole, eq_comm]

/-- Carried out or refused, a statement leaves a draft that is changed in place as an attempt leaves it. -/
theorem apply_leaves_attempt
    (draft : Draft)
    (statement : Statement) :
    apply statement draft = .ok () (draft.attempt statement) ∨
      ∃ error, apply statement draft = .error error (draft.attempt statement) := by
  rw [apply_eq]
  cases done : draft.apply statement with
  | ok changed =>
      rw [attempt_of_apply done]
      exact .inl rfl
  | error error =>
      rw [attempt_of_refused done]
      exact .inr ⟨error, rfl⟩

theorem applyAll_cons
    (draft : Draft)
    (statement : Statement)
    (rest : List Statement) :
    applyAll (statement :: rest) draft = match draft.apply statement with
      | .ok changed => applyAll rest changed
      | .error error => .error error draft := by
  change (apply statement >>= fun _ => applyAll rest) draft = _
  rw [bind_apply, apply_eq]
  cases draft.apply statement <;> rfl

/-- What a row of statements leaves is what is left by applying them up to the first refusal. -/
theorem applyAll_eq
    (draft : Draft)
    (statements : List Statement) :
    applyAll statements draft = match draft.applyUntil statements with
      | (after, none) => .ok () after
      | (after, some error) => .error error after := by
  induction statements generalizing draft with
  | nil => rfl
  | cons statement rest inductionHypothesis =>
      rw [applyAll_cons, applyUntil]
      cases draft.apply statement with
      | error error => rfl
      | ok changed => exact inductionHypothesis changed

theorem applyAll_eq_ok_iff :
    applyAll statements draft = .ok () after ↔ statements.foldlM Draft.apply draft = .ok after := by
  induction statements generalizing draft with
  | nil =>
      rw [List.foldlM_nil]
      exact ⟨fun done => by cases done; rfl, fun done => by cases done; rfl⟩
  | cons statement rest inductionHypothesis =>
      rw [applyAll_cons, List.foldlM_cons, bind_eq_ok_iff]
      cases draft.apply statement with
      | error error => simp
      | ok changed => simp [inductionHypothesis]

/-- A row of statements is refused for what its first refused statement is refused for, and leaves what the statements in
front of it make. -/
theorem applyAll_eq_error_iff :
    applyAll statements draft = .error error after ↔
      ∃ front statement behind, statements = front ++ statement :: behind ∧
        front.foldlM Draft.apply draft = .ok after ∧ after.Refuses statement error := by
  induction statements generalizing draft with
  | nil =>
      refine iff_of_false nofun ?_
      rintro ⟨front, statement, behind, split, _⟩
      simp at split
  | cons first rest inductionHypothesis =>
      rw [applyAll_cons]
      constructor
      · intro refused
        cases done : draft.apply first with
        | error reason =>
            rw [done] at refused
            cases refused
            exact ⟨[], first, rest, rfl, rfl, refuses_of_apply done⟩
        | ok changed =>
            rw [done] at refused
            obtain ⟨front, statement, behind, rfl, reached, refuses⟩ := inductionHypothesis.mp refused
            refine ⟨first :: front, statement, behind, rfl, ?_, refuses⟩
            rw [List.foldlM_cons, done]
            exact reached
      · rintro ⟨front, statement, behind, split, reached, refuses⟩
        cases front with
        | nil =>
            cases split
            cases reached
            rw [apply_of_refuses refuses]
        | cons _ front =>
            cases split
            rw [List.foldlM_cons] at reached
            obtain ⟨changed, done, further⟩ := bind_eq_ok_iff.mp reached
            rw [done]
            exact inductionHypothesis.mpr ⟨front, statement, behind, rfl, further, refuses⟩

end Edit

/-! ## Statements that were read -/

/-- The identifier that the library makes up is free as long as some number is. -/
theorem get?_nextId
    {kind : Kind}
    {number : Nat}
    (small : number < Identifier.numberBound)
    (free : ¬draft.tree.Takes kind number) :
    draft.tree.get? kind (draft.nextId kind) = none := by
  have least := isLeast_freeNumber draft kind
  have freeSmall : draft.freeNumber kind < Identifier.numberBound := lt_of_le_of_lt (least.2 free) small
  rw [Option.eq_none_iff_forall_ne_some]
  intro entity there
  exact least.1 ⟨_, .inl (Tree.mem_ids_iff.mpr ⟨entity, there⟩), nextId_eq draft kind ▸
    Identifier.number?_ofNumber freeSmall draft.idWidth⟩

/-- A well-formed statement says enough. -/
theorem not_isIncomplete_of_refuses
    (wellFormed : statement.command.WellFormed)
    (refuses : draft.Refuses statement error) :
    ¬error.IsIncomplete := by
  cases refuses with
  | unnamed notCreate unnamed => exact absurd unnamed (wellFormed.named notCreate)
  | bare notDelete _ bare => exact absurd (wellFormed.bare_iff.mp bare) notDelete
  | unfit _ _ given other => exact absurd (wellFormed.kind_eq _ given) other
  | taken _ _ _ => exact id
  | absent _ _ _ _ => exact id

/-- A well-formed creation that leaves the identifier to the library is refused only if no number is left. -/
theorem takes_of_refuses
    {number : Nat}
    (wellFormed : statement.command.WellFormed)
    (creates : statement.verb = .create)
    (unnamed : statement.id = none)
    (refuses : draft.Refuses statement error)
    (small : number < Identifier.numberBound) :
    draft.tree.Takes statement.kind number := by
  by_contra free
  have complete := not_isIncomplete_of_refuses wellFormed refuses
  cases refuses with
  | unnamed _ _ => exact complete trivial
  | bare _ _ _ => exact complete trivial
  | unfit _ _ _ _ => exact complete trivial
  | taken _ _ there =>
      rw [createdId, unnamed, Option.getD_none] at there
      exact there (get?_nextId small free)
  | absent notCreate _ _ _ => exact notCreate creates

/-- A statement, whatever it lacks, is carried out on a draft or is refused for one of the known reasons, and then the draft
is as before.  A row of statements is refused for what its first refused statement is refused for, and the draft is then what
the statements in front of that one make of it.  A statement that was read from a script is never refused for saying too
little, and not at all if it leaves the identifier of what it creates to the library, unless every number that an identifier
can have is in use. -/
theorem refused_changes_nothing :
    (∀ (draft : Draft) (statement : Statement),
      (∃ changed, draft.apply statement = .ok changed ∧ Edit.apply statement draft = .ok () changed) ∨
        ∃ error, draft.Refuses statement error ∧ Edit.apply statement draft = .error error draft) ∧
    (∀ (draft after : Draft) (statements : List Statement) (error : BuildError),
      Edit.applyAll statements draft = .error error after ↔
        ∃ front statement behind, statements = front ++ statement :: behind ∧
          front.foldlM Draft.apply draft = .ok after ∧ after.Refuses statement error) ∧
    (∀ (draft after : Draft) (statements : List Statement),
      Edit.applyAll statements draft = .ok () after ↔ statements.foldlM Draft.apply draft = .ok after) ∧
    ∀ script tokens statements, tokenize script = .ok tokens → parse tokens = .ok statements →
      ∀ (draft : Draft), ∀ statement ∈ statements,
        (∀ error, draft.Refuses statement error → ¬error.IsIncomplete) ∧
          (statement.verb = .create → statement.id = none →
            (∃ changed, Edit.apply statement draft = .ok () changed) ∨
              ∀ number < Identifier.numberBound, draft.tree.Takes statement.kind number) := by
  refine ⟨fun draft statement => ?_, fun _ _ _ _ => Edit.applyAll_eq_error_iff,
    fun _ _ _ => Edit.applyAll_eq_ok_iff, fun script tokens statements tokenized parsed draft statement member => ?_⟩
  · cases done : draft.apply statement with
    | ok changed => exact .inl ⟨changed, rfl, Edit.apply_eq_ok_iff.mpr done⟩
    | error error =>
        have refuses := refuses_of_apply done
        exact .inr ⟨error, refuses, Edit.apply_eq_error_iff.mpr ⟨refuses, rfl⟩⟩
  · have wellFormed := Script.wellFormed_of_parse tokenized parsed statement member
    refine ⟨fun _ => not_isIncomplete_of_refuses wellFormed, fun creates unnamed => ?_⟩
    cases done : draft.apply statement with
    | ok changed => exact .inl ⟨changed, Edit.apply_eq_ok_iff.mpr done⟩
    | error error => exact .inr fun _ => takes_of_refuses wellFormed creates unnamed (refuses_of_apply done)

/-- The creation of a dialogue that is left to the library to name. -/
def unnamedCreation : Statement := ⟨1, .create, .dialogue, none, some (.dialogue "Oh?" []), ⟨0, 1, 1⟩⟩

/-- The update of a dialogue that is not there. -/
def lateUpdate : Statement := ⟨2, .update, .dialogue, some "b", some (.dialogue "Ah!" []), ⟨22, 2, 1⟩⟩

/-- A script of both. -/
def rashScript : String := "create dialogue \"Oh?\"\nupdate dialogue b \"Ah!\"\n"

theorem parse_rashScript :
    ∃ tokens, tokenize rashScript = .ok tokens ∧ parse tokens = .ok [unnamedCreation, lateUpdate] := by
  have read : (tokenize rashScript >>= fun tokens => (parse tokens).mapError fun _ => default) =
      .ok [unnamedCreation, lateUpdate] := by
    decide +kernel
  obtain ⟨tokens, tokenized, parsed⟩ := bind_eq_ok_iff.mp read
  exact ⟨tokens, tokenized, mapError_eq_ok_iff.mp parsed⟩

theorem not_takes_sparseTalk : ¬sparseTalk.Takes .dialogue 2 := by
  have unused : 2 ∉ (ofTree sparseTalk).takenNumbers .dialogue := by decide +kernel
  rwa [mem_takenNumbers_iff] at unused

/-- The creation is carried out, and the update is refused, but not for saying too little. -/
theorem refused_rashScript :
    (∃ tokens, tokenize rashScript = .ok tokens ∧ parse tokens = .ok [unnamedCreation, lateUpdate]) ∧
      (∃ changed, Edit.apply unnamedCreation (ofTree sparseTalk) = .ok () changed) ∧
        ∃ error, (ofTree sparseTalk).Refuses lateUpdate error ∧ ¬error.IsIncomplete := by
  obtain ⟨tokens, tokenized, parsed⟩ := parse_rashScript
  obtain ⟨creation, update, -⟩ := List.forall_mem_cons.mp
    (refused_changes_nothing.2.2.2 rashScript tokens _ tokenized parsed (ofTree sparseTalk)) |>.imp_right
      List.forall_mem_cons.mp
  have small : 2 < Identifier.numberBound := by
    rw [Identifier.numberBound]
    norm_num
  have missing : (ofTree sparseTalk).tree.get? .dialogue "b" = none := by decide +kernel
  have refuses : (ofTree sparseTalk).Refuses lateUpdate _ :=
    .absent Verb.noConfusion rfl (fun _ => ⟨_, rfl, rfl⟩) missing
  exact ⟨parse_rashScript,
    (creation.2 rfl rfl).resolve_right fun all => not_takes_sparseTalk (all 2 small),
    _, refuses, update.1 _ refuses⟩

end Draft
end Parley
