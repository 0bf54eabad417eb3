import Parley.Compiler
import Parley.Proofs.Conversation.Course
import Parley.Proofs.Draft.Finish
import Parley.Proofs.Draft.Steps
import Parley.Proofs.Script.Statements

/-!
# Scripts for trees

Every certified tree without developer data can be written as a script: one statement for each of its entities, which
creates the entity under its identifier.  A statement is read as it was written because identifiers are legal, no
statement is refused because identifiers are distinct, and nothing is left to finish because owners list their actions.
-/

namespace Parley

open Integrity (Rules ValidTree)
open Script (Command Lexeme Statement parse tokenize)

variable {tree : Tree} {entity : Entity}

/-! ## One statement for an entity -/

/-- The statement that creates an entity. -/
def Entity.creation (entity : Entity) : Command := ⟨.create, entity.kind, some entity.id, some entity.fields⟩

theorem Entity.Spelled.legal_fields
    (spelled : entity.Spelled) :
    ∀ lexeme ∈ entity.fields.lexemes, lexeme.Legal := by
  cases entity with
  | scene scene =>
      intro lexeme member
      obtain rfl := List.mem_singleton.mp member
      exact (spelled_scene_iff.mp spelled).2
  | dialogue dialogue =>
      intro lexeme member
      rcases List.mem_cons.mp member with rfl | listed
      · trivial
      · obtain ⟨action, inActions, rfl⟩ := List.mem_map.mp listed
        exact (spelled_dialogue_iff.mp spelled).2 action inActions
  | action action =>
      obtain ⟨_, ownerLegal, nextLegal⟩ := spelled_action_iff.mp spelled
      intro lexeme member
      rcases List.mem_cons.mp member with rfl | behind
      · exact ownerLegal
      · rcases List.mem_cons.mp behind with rfl | reply
        · cases next : action.next with
          | finish => trivial
          | dialogue id => exact nextLegal next
        · obtain ⟨_, _, rfl⟩ := List.mem_map.mp reply
          trivial

theorem Entity.Spelled.legal_id
    (spelled : entity.Spelled) :
    Identifier.isLegal entity.id := by
  cases entity <;> exact spelled _ List.mem_cons_self

theorem Entity.Spelled.creation_wellFormed
    (spelled : entity.Spelled) :
    entity.creation.WellFormed where
  named := fun _ => Option.some_ne_none _
  bare_iff := iff_of_false (Option.some_ne_none _) Script.Verb.noConfusion
  kind_eq := by
    rintro fields ⟨⟩
    exact entity.kind_fields
  legal := by
    intro lexeme member
    simp only [Command.lexemes, Command.operands, creation, Option.toList_some, List.map_cons, List.map_nil,
      List.flatMap_cons, List.flatMap_nil, List.append_nil, List.mem_cons, List.mem_append, List.not_mem_nil,
      or_false] at member
    rcases member with rfl | rfl | rfl | inFields
    · trivial
    · trivial
    · exact spelled.legal_id
    · exact spelled.legal_fields lexeme inFields

/-! ## Creating all entities -/

namespace Draft

variable {draft : Draft} {statement : Statement}

theorem apply_creation
    (speaks : statement.command = entity.creation)
    (bare : entity.context = Context.empty)
    (fresh : draft.tree.get? entity.kind entity.id = none) :
    draft.apply statement = .ok (draft.withTree (draft.tree.put entity)) := by
  simp only [Statement.command, Entity.creation, Command.mk.injEq] at speaks
  obtain ⟨verb, kind, id, fields⟩ := speaks
  have created : draft.createdId statement = entity.id := by
    rw [createdId, id, Option.getD_some]
  have same := entity.toEntity_fields
  rw [bare] at same
  rw [apply, verb]
  refine create_eq_ok_iff.mpr ⟨entity.fields, fields, entity.kind_fields.trans kind.symm, ?_, ?_⟩
  · rwa [created, entity.kind_fields]
  · rw [created, same]

/-- Statements that create distinct new entities put them all into the tree. -/
theorem applyAll_creations
    {entities : List Entity}
    {statements : List Statement}
    (speaks : statements.map Statement.command = entities.map Entity.creation)
    (bare : ∀ entity ∈ entities, entity.context = Context.empty)
    (distinct : Tree.Distinct entities)
    (fresh : ∀ entity ∈ entities, draft.tree.get? entity.kind entity.id = none) :
    draft.applyAll statements = .ok (draft.withTree (entities.foldl Tree.put draft.tree)) := by
  induction entities generalizing draft statements with
  | nil =>
      rw [List.map_eq_nil_iff.mp speaks]
      rfl
  | cons first rest inductionHypothesis =>
      obtain ⟨statement, others, rfl, saysFirst, saysRest⟩ := List.map_eq_cons_iff.mp speaks
      obtain ⟨firstBare, restBare⟩ := List.forall_mem_cons.mp bare
      obtain ⟨apart, restDistinct⟩ := List.pairwise_cons.mp distinct
      obtain ⟨firstFresh, restFresh⟩ := List.forall_mem_cons.mp fresh
      have stillFresh : ∀ entity ∈ rest, (draft.tree.put first).get? entity.kind entity.id = none := by
        intro entity member
        rw [Tree.get?_put, if_neg fun same => apart entity member same.1.symm same.2.symm]
        exact restFresh entity member
      rw [applyAll_cons, apply_creation saysFirst firstBare firstFresh]
      exact inductionHypothesis saysRest restBare restDistinct stillFresh

theorem isUnlisted_of_coherent
    (coherent : tree.Coherent) :
    ∀ action ∈ tree.actions.values, isUnlisted tree action = false := by
  intro action member
  obtain ⟨key, found⟩ := Table.mem_values_iff.mp member
  obtain ⟨owner, there, listed⟩ := coherent.owner_lists found
  rw [(coherent.action_id found).1] at listed
  rw [← Bool.not_eq_true, isUnlisted_iff]
  rintro ⟨other, stored, unlisted⟩
  cases there.symm.trans stored
  exact unlisted listed

end Draft

/-! ## Building the tree -/

namespace Compiler

theorem buildScript_eq_ok_iff
    {compiler : Compiler}
    {script : String} :
    compiler.buildScript script = .ok tree ↔
      ∃ tokens statements draft, tokenize script = .ok tokens ∧ parse tokens = .ok statements ∧
        (Draft.empty.withIdWidth compiler.idWidth).applyAll statements = .ok draft ∧ draft.finish = tree := by
  simp only [buildScript, bind_eq_ok_iff, mapError_eq_ok_iff]
  constructor
  · rintro ⟨tokens, tokenized, statements, parsed, draft, applied, finished⟩
    exact ⟨tokens, statements, draft, tokenized, parsed, applied, Except.ok.inj finished⟩
  · rintro ⟨tokens, statements, draft, tokenized, parsed, applied, finished⟩
    exact ⟨tokens, tokenized, statements, parsed, draft, applied, congrArg Except.ok finished⟩

/-- Every coherent tree without developer data has a script that builds just it, whatever the width of identifiers. -/
theorem exists_script_of_coherent
    (coherent : tree.Coherent)
    (bare : ∀ entity ∈ tree.entities, entity.context = Context.empty) :
    ∃ script, ∀ compiler : Compiler, compiler.buildScript script = .ok tree := by
  have named := Integrity.named_of_coherent coherent
  have wellFormed : ∀ command ∈ tree.entities.map Entity.creation, command.WellFormed := by
    intro command member
    obtain ⟨entity, inTree, rfl⟩ := List.mem_map.mp member
    exact (named.spelled_of_mem inTree).creation_wellFormed
  obtain ⟨script, tokens, statements, tokenized, parsed, speaks⟩ := Script.exists_script wellFormed
  refine ⟨script, fun compiler => buildScript_eq_ok_iff.mpr ⟨tokens, statements, _, tokenized, parsed,
    Draft.applyAll_creations speaks bare named.distinct_entities fun _ _ => Tree.get?_empty _ _, ?_⟩⟩
  have whole : tree.entities.foldl Tree.put (Draft.empty.withIdWidth compiler.idWidth).tree = tree :=
    named.foldl_put_entities
  rw [whole]
  exact Draft.finish_of_listed (Draft.isUnlisted_of_coherent coherent)

/-- Every tree that is certified under some rules and carries no developer data can be written as a script: there is a
text from which any compiler builds exactly this tree, whatever characters its lines and replies are made of. -/
theorem exists_script_of_validate
    {rules : Rules}
    {valid : ValidTree}
    (accepted : Integrity.validate rules tree = .ok valid)
    (bare : ∀ entity ∈ tree.entities, entity.context = Context.empty) :
    ∃ script, ∀ compiler : Compiler, compiler.buildScript script = .ok tree :=
  exists_script_of_coherent (Integrity.validate_eq_ok_iff.mp accepted).1.1 bare

/-- Small talk can be written as a script. -/
theorem exists_script_smallTalk :
    Integrity.validate {} smallTalk = .ok smallTalkValid ∧
      (∀ entity ∈ smallTalk.entities, entity.context = Context.empty) ∧
        ∃ script, ∀ compiler : Compiler, compiler.buildScript script = .ok smallTalk := by
  have accepted : Integrity.validate {} smallTalk = .ok smallTalkValid := dif_pos isOk_check_smallTalk
  have bare : ∀ entity ∈ smallTalk.entities, entity.context = Context.empty := by
    have contexts : smallTalk.entities.map Entity.context = List.replicate 4 Context.empty := by cbv
    intro entity member
    exact (List.eq_replicate_iff.mp contexts).2 _ (List.mem_map_of_mem member)
  exact ⟨accepted, bare, exists_script_of_validate accepted bare⟩

end Compiler
end Parley
