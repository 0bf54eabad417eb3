import Mathlib
import Parley.Proofs.Draft.Steps

/-!
# The order of creations

Statements that create entities under identifiers of their own do not get in each other's way.  In whatever order they
come, they are all refused or none is, and the finished tree is the same.
-/

namespace Parley

open Script (Statement)

/-- Entities of different kinds or identifiers can be put into a tree in either order. -/
theorem Tree.put_comm
    {tree : Tree}
    {first second : Entity}
    (apart : ¬(first.kind = second.kind ∧ first.id = second.id)) :
    (tree.put first).put second = (tree.put second).put first := by
  apply ext_get?
  intro kind key
  simp only [get?_put]
  split_ifs with ofSecond ofFirst
  · exact absurd ⟨ofFirst.1.symm.trans ofSecond.1, ofFirst.2.symm.trans ofSecond.2⟩ apart
  · rfl
  · rfl
  · rfl

/-- A statement creates an entity that it describes in full: it gives an identifier, and the fields of its kind. -/
structure Script.Statement.Creates (statement : Statement) : Prop where
  verb_eq : statement.verb = .create
  named : statement.id ≠ none
  described : ∃ fields, statement.fields = some fields ∧ fields.kind = statement.kind

namespace Draft

variable {draft changed : Draft} {statement first second : Statement} {statements reordered : List Statement}

/-- A creation under an identifier of its own puts one entity into any tree where the identifier is free. -/
theorem exists_created
    (creates : statement.Creates) :
    ∃ entity : Entity, ∀ draft changed : Draft, draft.apply statement = .ok changed ↔
      draft.tree.get? entity.kind entity.id = none ∧ changed = draft.withTree (draft.tree.put entity) := by
  obtain ⟨id, named⟩ := Option.ne_none_iff_exists'.mp creates.named
  obtain ⟨fields, given, same⟩ := creates.described
  refine ⟨fields.toEntity id Context.empty, fun draft changed => ?_⟩
  have created : draft.createdId statement = id := by rw [createdId, named, Option.getD_some]
  rw [apply, creates.verb_eq]
  dsimp only
  rw [create_eq_ok_iff, created, Script.Fields.kind_toEntity, Script.Fields.id_toEntity]
  constructor
  · rintro ⟨_, alsoGiven, _, free, rfl⟩
    cases given.symm.trans alsoGiven
    exact ⟨free, rfl⟩
  · rintro ⟨free, rfl⟩
    exact ⟨fields, given, same, free, rfl⟩

/-- Two creations that are possible one after the other are possible the other way round, to the same effect. -/
theorem apply_comm
    {middle : Draft}
    (firstCreates : first.Creates)
    (secondCreates : second.Creates)
    (firstDone : draft.apply first = .ok middle)
    (secondDone : middle.apply second = .ok changed) :
    ∃ other, draft.apply second = .ok other ∧ other.apply first = .ok changed := by
  obtain ⟨one, applyFirst⟩ := exists_created firstCreates
  obtain ⟨two, applySecond⟩ := exists_created secondCreates
  obtain ⟨oneFree, rfl⟩ := (applyFirst _ _).mp firstDone
  obtain ⟨twoFree, rfl⟩ := (applySecond _ _).mp secondDone
  simp only [withTree, Tree.get?_put] at twoFree
  split_ifs at twoFree with same
  refine ⟨_, (applySecond _ _).mpr ⟨twoFree, rfl⟩, (applyFirst _ _).mpr ⟨?_, ?_⟩⟩
  · simp only [withTree, Tree.get?_put]
    rwa [if_neg fun equal => same ⟨equal.1.symm, equal.2.symm⟩]
  · simp only [withTree]
    rw [Tree.put_comm fun equal => same ⟨equal.1.symm, equal.2.symm⟩]

/-- Creations that are possible in one order are possible in every other, to the same effect. -/
theorem applyAll_perm
    (creating : ∀ statement ∈ statements, statement.Creates)
    (reorders : statements.Perm reordered)
    (done : draft.applyAll statements = .ok changed) :
    draft.applyAll reordered = .ok changed := by
  induction reorders generalizing draft with
  | nil => exact done
  | cons statement _ inductionHypothesis =>
      obtain ⟨_, further⟩ := List.forall_mem_cons.mp creating
      rw [applyAll_cons] at done ⊢
      obtain ⟨middle, first, rest⟩ := bind_eq_ok_iff.mp done
      exact bind_eq_ok_iff.mpr ⟨middle, first, inductionHypothesis further rest⟩
  | swap second first rest =>
      obtain ⟨firstCreates, further⟩ := List.forall_mem_cons.mp creating
      obtain ⟨secondCreates, _⟩ := List.forall_mem_cons.mp further
      rw [applyAll_cons] at done
      obtain ⟨middle, firstDone, done⟩ := bind_eq_ok_iff.mp done
      rw [applyAll_cons] at done
      obtain ⟨both, secondDone, restDone⟩ := bind_eq_ok_iff.mp done
      obtain ⟨other, secondFirst, firstThen⟩ := apply_comm firstCreates secondCreates firstDone secondDone
      rw [applyAll_cons]
      refine bind_eq_ok_iff.mpr ⟨other, secondFirst, ?_⟩
      rw [applyAll_cons]
      exact bind_eq_ok_iff.mpr ⟨both, firstThen, restDone⟩
  | trans front _ frontHypothesis behindHypothesis =>
      refine behindHypothesis (fun statement member => ?_) (frontHypothesis creating done)
      exact creating statement (front.mem_iff.mpr member)

/-- From any draft, statements that create entities under identifiers of their own are possible in every order if they are
possible in one, and finishing gives the same tree, with the same actions in every list and in the same order. -/
theorem finish_applyAll_of_perm
    (creating : ∀ statement ∈ statements, statement.Creates)
    (reorders : statements.Perm reordered)
    (done : draft.applyAll statements = .ok changed) :
    ∃ other, draft.applyAll reordered = .ok other ∧ other.finish = changed.finish :=
  ⟨changed, applyAll_perm creating reorders done, rfl⟩

/-- A hall that lists the last of its three actions, and comes after the first of them. -/
def hallStatements : List Statement :=
  [⟨1, .create, .action, some "b", some (.action "hall" .finish none), .start⟩,
    ⟨2, .create, .dialogue, some "hall", some (.dialogue "Well?" ["c"]), .start⟩,
    ⟨3, .create, .action, some "a", some (.action "hall" (.dialogue "hall") (some "Again.")), .start⟩,
    ⟨4, .create, .action, some "c", some (.action "hall" .finish none), .start⟩,
    ⟨5, .create, .scene, some "c", some (.scene "hall"), .start⟩]

/-- In the order in which it is written and in the reverse one, the hall comes to offer `c`, `a` and `b`. -/
theorem finish_hallStatements :
    (∀ statement ∈ hallStatements, statement.Creates) ∧ hallStatements.Perm hallStatements.reverse ∧
      ∃ built other, Draft.empty.applyAll hallStatements = .ok built ∧
        Draft.empty.applyAll hallStatements.reverse = .ok other ∧ other.finish = built.finish ∧
          (built.finish.dialogues.get? "hall").map Dialogue.actions = some ["c", "a", "b"] := by
  have creating : ∀ statement ∈ hallStatements, statement.Creates := by
    simp only [hallStatements, List.forall_mem_cons]
    exact ⟨⟨rfl, nofun, _, rfl, rfl⟩, ⟨rfl, nofun, _, rfl, rfl⟩, ⟨rfl, nofun, _, rfl, rfl⟩, ⟨rfl, nofun, _, rfl, rfl⟩,
      ⟨rfl, nofun, _, rfl, rfl⟩, nofun⟩
  have reorders : hallStatements.Perm hallStatements.reverse := hallStatements.reverse_perm.symm
  have offered : (Draft.empty.applyAll hallStatements).map
      (fun built => (built.finish.dialogues.get? "hall").map Dialogue.actions) = .ok (some ["c", "a", "b"]) := by
    cbv
  obtain ⟨built, done, actions⟩ := map_eq_ok_iff.mp offered
  obtain ⟨other, otherDone, same⟩ := finish_applyAll_of_perm creating reorders done
  exact ⟨creating, reorders, built, other, done, otherDone, same, actions⟩

end Draft
end Parley
