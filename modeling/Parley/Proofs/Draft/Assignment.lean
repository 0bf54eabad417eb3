import Mathlib
import Parley.Proofs.Draft.FreeNumbers
import Parley.Proofs.Draft.Steps
import Parley.Script.Lexer
import Parley.Script.Parser

/-!
# Identifiers that are made up in a row

Where nothing is deleted, keys stay, and a number in use gets out of use only by an update that takes away the last reference
to it.  So of two identifiers that are made up for one kind the later one has the greater number, unless its number was
released in between.
-/

namespace Parley
namespace Draft

open Script (Statement tokenize parse)

/-! ## Statements and the drafts between them -/

/-- A statement, and the draft that it is applied to. -/
structure Step where
  draft : Draft
  statement : Statement

namespace Step

/-- The draft after the statement. -/
def after (step : Step) : Draft := step.draft.attempt step.statement

/-- The identifier that the library makes up for the statement, if it does. -/
def assigned? (step : Step) : Option String := step.draft.assigned? step.statement

/-- The statement is applied and deletes nothing. -/
structure Lasting (step : Step) : Prop where
  keeps : step.statement.verb ≠ .delete
  applied : step.draft.apply step.statement = .ok step.after

/-- An update takes away the last reference to a number of a kind, which no entity of the kind has. -/
structure Releases (step : Step) (kind : Kind) (number : Nat) : Prop where
  updates : step.statement.verb = .update
  referenced : ∃ entity ∈ step.draft.tree.entities, ∃ name,
    entity.PointsAt kind name ∧ Identifier.number? name = some number
  unowned : ∀ name ∈ step.draft.tree.ids kind, Identifier.number? name ≠ some number
  released : ¬step.after.tree.Takes kind number

end Step

/-- The statements of a row, each with the draft that it is applied to. -/
def steps (draft : Draft) : List Statement → List Step
  | [] => []
  | statement :: rest => ⟨draft, statement⟩ :: (draft.attempt statement).steps rest

variable {draft changed : Draft} {statement : Statement} {statements : List Statement} {step earlier later : Step}
  {front between behind : List Step} {kind : Kind} {name : String} {number : Nat}

/-- Where no statement of a row deletes and all are applied, each is, and the spelling of identifiers stays the same. -/
theorem lasting_of_mem_steps
    (keep : ∀ statement ∈ statements, statement.verb ≠ .delete)
    (done : draft.applyAll statements = .ok changed) :
    ∀ step ∈ draft.steps statements, step.Lasting ∧ step.draft.idWidth = draft.idWidth := by
  induction statements generalizing draft with
  | nil => exact nofun
  | cons statement rest inductionHypothesis =>
      obtain ⟨keeps, restKeep⟩ := List.forall_mem_cons.mp keep
      rw [applyAll_cons] at done
      obtain ⟨middle, first, further⟩ := bind_eq_ok_iff.mp done
      obtain rfl := attempt_of_apply first
      have width : (draft.attempt statement).idWidth = draft.idWidth := by
        obtain ⟨_, put⟩ := exists_put_of_apply keeps first
        rw [put]
        rfl
      refine List.forall_mem_cons.mpr ⟨⟨⟨keeps, first⟩, rfl⟩, fun step member => ?_⟩
      obtain ⟨lasting, sameWidth⟩ := inductionHypothesis restKeep further step member
      exact ⟨lasting, sameWidth.trans width⟩

/-- What comes behind a step are the steps of the draft after it. -/
theorem exists_steps_of_append
    (order : draft.steps statements = front ++ step :: behind) :
    ∃ rest, step.after.steps rest = behind := by
  induction front generalizing draft statements with
  | nil =>
      cases statements with
      | nil => cases order
      | cons statement rest =>
          cases order
          exact ⟨rest, rfl⟩
  | cons first front inductionHypothesis =>
      cases statements with
      | nil => cases order
      | cons statement rest => exact inductionHypothesis (List.cons.inj order).2

/-- What holds at first and no longer holds later on is lost at some step in between. -/
theorem exists_loss
    (holds : Draft → Prop)
    (order : draft.steps statements = between ++ later :: behind)
    (held : holds draft)
    (lost : ¬holds later.draft) :
    ∃ step ∈ between, holds step.draft ∧ ¬holds step.after := by
  induction between generalizing draft statements with
  | nil =>
      cases statements with
      | nil => cases order
      | cons statement rest =>
          cases order
          exact absurd held lost
  | cons first between inductionHypothesis =>
      cases statements with
      | nil => cases order
      | cons statement rest =>
          obtain ⟨rfl, further⟩ := List.cons.inj order
          by_cases still : holds (draft.attempt statement)
          · obtain ⟨step, member, loss⟩ := inductionHypothesis further still
            exact ⟨step, List.mem_cons_of_mem _ member, loss⟩
          · exact ⟨_, List.mem_cons_self, held, still⟩

/-! ## What one statement keeps -/

theorem mem_ids_after
    (lasting : step.Lasting)
    (key : name ∈ step.draft.tree.ids kind) :
    name ∈ step.after.tree.ids kind := by
  obtain ⟨entity, put⟩ := exists_put_of_apply lasting.keeps lasting.applied
  rw [put]
  exact Tree.mem_ids_put_iff.mpr (.inr key)

/-- A creation takes no number out of use. -/
theorem takes_of_create
    (creates : statement.verb = .create)
    (done : draft.apply statement = .ok changed)
    (taken : draft.tree.Takes kind number) :
    changed.tree.Takes kind number := by
  rw [apply, creates] at done
  obtain ⟨fields, _, _, free, rfl⟩ := create_eq_ok_iff.mp done
  obtain ⟨name, mentioned, stands⟩ := taken
  refine ⟨name, mentioned.put ?_, stands⟩
  rwa [Script.Fields.kind_toEntity, Script.Fields.id_toEntity]

/-- An identifier that is made up was free and is a key then. -/
theorem mem_ids_of_assigned
    {id : String}
    (assigned : draft.assigned? statement = some id)
    (done : draft.apply statement = .ok changed) :
    id = draft.nextId statement.kind ∧ statement.verb = .create ∧ id ∉ draft.tree.ids statement.kind ∧
      id ∈ changed.tree.ids statement.kind := by
  unfold assigned? at assigned
  split_ifs at assigned with made
  obtain rfl := Option.some.inj assigned
  rw [apply, made.1] at done
  obtain ⟨fields, _, same, free, rfl⟩ := create_eq_ok_iff.mp done
  rw [createdId, made.2, Option.getD_none, same] at free
  rw [createdId, made.2, Option.getD_none]
  refine ⟨rfl, made.1, ?_, Tree.mem_ids_put_iff.mpr (.inl ?_)⟩
  · rw [Tree.mem_ids_iff, free]
    rintro ⟨_, ⟨⟩⟩
  · rw [Script.Fields.kind_toEntity, Script.Fields.id_toEntity]
    exact ⟨same.symm, rfl⟩

/-- A step that takes a number out of use, where nothing is deleted, is an update that releases it. -/
theorem releases_of_lost
    (lasting : step.Lasting)
    (taken : step.draft.tree.Takes kind number)
    (lost : ¬step.after.tree.Takes kind number) :
    step.Releases kind number := by
  have updates : step.statement.verb = .update := by
    cases verb : step.statement.verb with
    | create => exact absurd (takes_of_create verb lasting.applied taken) lost
    | update => rfl
    | delete => exact absurd verb lasting.keeps
  have unowned : ∀ name ∈ step.draft.tree.ids kind, Identifier.number? name ≠ some number := fun name key stands =>
    lost ⟨name, .inl (mem_ids_after lasting key), stands⟩
  obtain ⟨name, key | ⟨entity, member, points⟩, stands⟩ := taken
  · exact absurd stands (unowned name key)
  · exact ⟨updates, ⟨entity, member, name, points, stands⟩, unowned, lost⟩

/-! ## What a row of statements keeps -/

theorem mem_ids_of_between
    (order : draft.steps statements = between ++ later :: behind)
    (lasting : ∀ step ∈ between, step.Lasting)
    (key : name ∈ draft.tree.ids kind) :
    name ∈ later.draft.tree.ids kind := by
  by_contra gone
  obtain ⟨step, member, before, lost⟩ := exists_loss (fun draft => name ∈ draft.tree.ids kind) order key gone
  exact lost (mem_ids_after (lasting step member) before)

theorem exists_releases
    (order : draft.steps statements = between ++ later :: behind)
    (lasting : ∀ step ∈ between, step.Lasting)
    (taken : draft.tree.Takes kind number)
    (free : ¬later.draft.tree.Takes kind number) :
    ∃ step ∈ between, step.Releases kind number := by
  obtain ⟨step, member, before, lost⟩ := exists_loss (fun draft => draft.tree.Takes kind number) order taken free
  exact ⟨step, member, releases_of_lost (lasting step member) before lost⟩

/-! ## Two identifiers that are made up -/

/-- Where no statement deletes, an identifier that is made up has a greater number than one that was made up for the same kind
before, unless an update in between released its number. -/
theorem assigned_lt_or_released
    {first second : String}
    (keep : ∀ statement ∈ statements, statement.verb ≠ .delete)
    (done : draft.applyAll statements = .ok changed)
    (order : draft.steps statements = front ++ earlier :: (between ++ later :: behind))
    (sameKind : earlier.statement.kind = later.statement.kind)
    (firstAssigned : earlier.assigned? = some first)
    (secondAssigned : later.assigned? = some second) :
    ∃ m n, first = Identifier.ofNumber m draft.idWidth ∧ second = Identifier.ofNumber n draft.idWidth ∧
      (m < n ∨ n < m ∧ ∃ step ∈ between, step.Releases later.statement.kind n) := by
  have all : ∀ step ∈ front ++ earlier :: (between ++ later :: behind),
      step.Lasting ∧ step.draft.idWidth = draft.idWidth := order ▸ lasting_of_mem_steps keep done
  obtain ⟨earlierLasting, earlierWidth⟩ := all earlier (by simp)
  obtain ⟨laterLasting, laterWidth⟩ := all later (by simp)
  have lasting : ∀ step ∈ between, step.Lasting := fun step member => (all step (by simp [member])).1
  obtain ⟨rest, restOrder⟩ := exists_steps_of_append order
  obtain ⟨firstNext, creates, _, firstKey⟩ := mem_ids_of_assigned firstAssigned earlierLasting.applied
  obtain ⟨secondNext, _, secondFree, _⟩ := mem_ids_of_assigned secondAssigned laterLasting.applied
  rw [nextId_eq, earlierWidth, sameKind] at firstNext
  rw [nextId_eq, laterWidth] at secondNext
  rw [sameKind] at firstKey
  refine ⟨_, _, firstNext, secondNext, ?_⟩
  rcases lt_trichotomy (earlier.draft.freeNumber later.statement.kind) (later.draft.freeNumber later.statement.kind) with
    smaller | equal | greater
  · exact .inl smaller
  · -- The earlier identifier is still a key, so the later one cannot be the same.
    have same : first = second := by rw [firstNext, secondNext, equal]
    exact absurd (mem_ids_of_between restOrder lasting firstKey) (same ▸ secondFree)
  · -- The lesser number was in use when the greater one was the least that was not.
    have taken : earlier.draft.tree.Takes later.statement.kind (later.draft.freeNumber later.statement.kind) := by
      by_contra free
      exact absurd ((isLeast_freeNumber _ _).2 free) (not_le.mpr greater)
    have free := (isLeast_freeNumber later.draft later.statement.kind).1
    exact .inr ⟨greater, exists_releases restOrder lasting (takes_of_create creates earlierLasting.applied taken) free⟩

/-- A script in which a scene lets go of the dialogue that it started with. -/
def fickleScript : String :=
  "create scene s 0\ncreate dialogue \"A\"\nupdate scene s 9\ncreate dialogue \"B\"\n"

/-- Its statements. -/
def fickleStatements : List Statement :=
  [⟨1, .create, .scene, some "s", some (.scene "0"), ⟨0, 1, 1⟩⟩,
    ⟨2, .create, .dialogue, none, some (.dialogue "A" []), ⟨17, 2, 1⟩⟩,
    ⟨3, .update, .scene, some "s", some (.scene "9"), ⟨37, 3, 1⟩⟩,
    ⟨4, .create, .dialogue, none, some (.dialogue "B" []), ⟨54, 4, 1⟩⟩]

theorem verb_fickleStatements : ∀ statement ∈ fickleStatements, statement.verb ≠ .delete := by decide

theorem applyAll_fickleStatements : ∃ built, Draft.empty.applyAll fickleStatements = .ok built := by
  have done : ((Draft.empty.applyAll fickleStatements).map fun _ => ()) = .ok () := by decide +kernel
  obtain ⟨built, applied, _⟩ := map_eq_ok_iff.mp done
  exact ⟨built, applied⟩

/-- Without a deletion, a dialogue can get a smaller number than one before it: the first is number one, since the scene
starts with number zero, and the second is number zero, since the scene no longer does. -/
theorem assigned_fickleScript :
    (tokenize fickleScript).toOption.bind (fun tokens => (parse tokens).toOption) = some fickleStatements ∧
      (∀ statement ∈ fickleStatements, statement.verb ≠ .delete) ∧
        (∃ built, Draft.empty.applyAll fickleStatements = .ok built) ∧
          ((Draft.empty.steps fickleStatements).filter (·.statement.kind = .dialogue)).filterMap Step.assigned? =
            ["0001", "0000"] ∧
          ¬(["0001", "0000"].filterMap Identifier.number?).Pairwise (· < ·) := by
  refine ⟨by decide +kernel, verb_fickleStatements, applyAll_fickleStatements, by decide +kernel, ?_⟩
  have numbers : ["0001", "0000"].filterMap Identifier.number? = [1, 0] := by decide +kernel
  rw [numbers]
  decide

/-- The update of the scene in between is what releases the number zero. -/
theorem released_fickleStatements :
    ∃ built opening earlier update later,
      Draft.empty.applyAll fickleStatements = .ok built ∧
        Draft.empty.steps fickleStatements = [opening] ++ earlier :: ([update] ++ later :: []) ∧
          earlier.assigned? = some "0001" ∧ later.assigned? = some "0000" ∧
            ∃ m n, "0001" = Identifier.ofNumber m 4 ∧ "0000" = Identifier.ofNumber n 4 ∧
              (m < n ∨ n < m ∧ ∃ step ∈ [update], step.Releases .dialogue n) := by
  obtain ⟨built, done⟩ := applyAll_fickleStatements
  obtain ⟨opening, earlier, update, later, order⟩ : ∃ opening earlier update later,
      Draft.empty.steps fickleStatements = [opening] ++ earlier :: ([update] ++ later :: []) := ⟨_, _, _, _, rfl⟩
  have made : ((Draft.empty.steps fickleStatements).map fun step => (step.statement.kind, step.assigned?)) =
      [(.scene, none), (.dialogue, some "0001"), (.scene, none), (.dialogue, some "0000")] := by decide +kernel
  rw [order] at made
  simp only [List.singleton_append, List.map_cons, List.map_nil, List.cons.injEq, Prod.mk.injEq] at made
  obtain ⟨_, ⟨earlierKind, earlierMade⟩, _, ⟨laterKind, laterMade⟩, _⟩ := made
  have released := assigned_lt_or_released verb_fickleStatements done order (earlierKind.trans laterKind.symm)
    earlierMade laterMade
  rw [laterKind] at released
  exact ⟨built, opening, earlier, update, later, done, order, earlierMade, laterMade, released⟩

end Draft
end Parley
