import Parley.Compiler
import Parley.Proofs.Compiler.Spelling
import Parley.Proofs.Document.Names
import Parley.Proofs.Document.RoundTrip
import Parley.Proofs.Draft.Finish
import Parley.Proofs.Draft.Steps
import Parley.Proofs.Integrity.Naming
import Parley.Proofs.Integrity.Unlisted
import Parley.Proofs.Script.Parsing

/-!
# What can be wrong with trees that were read

A tree that was built from a script or read from a document may have references that lead nowhere, dialogues that list
actions of others, and orphans.  Its names are in order in any case, and if it was built from a script, no action is missing
from its owner's list.
-/

namespace Parley

open Integrity (Category Finding Rules check)
open Script (Fields Statement)

variable {tree : Tree} {draft changed : Draft}

/-! ## Names in drafts -/

theorem Script.Fields.spelled_toEntity
    {fields : Fields}
    {id : String}
    (context : Context)
    (idLegal : Identifier.isLegal id)
    (legal : ∀ lexeme ∈ fields.lexemes, lexeme.Legal) :
    (fields.toEntity id context).Spelled := by
  cases fields with
  | scene start => exact Entity.spelled_scene_iff.mpr ⟨idLegal, legal _ List.mem_cons_self⟩
  | dialogue text actions =>
      refine Entity.spelled_dialogue_iff.mpr ⟨idLegal, fun action member => ?_⟩
      exact legal (.name action) (List.mem_cons_of_mem _ (List.mem_map_of_mem member))
  | action owner next reply =>
      obtain ⟨ownerLegal, others⟩ := List.forall_mem_cons.mp legal
      refine Entity.spelled_action_iff.mpr ⟨idLegal, ownerLegal, ?_⟩
      rintro target rfl
      exact others _ List.mem_cons_self

namespace Draft

theorem named_of_apply
    {statement : Statement}
    (legal : ∀ lexeme ∈ statement.command.lexemes, lexeme.Legal)
    (named : draft.tree.Named)
    (done : draft.apply statement = .ok changed) :
    changed.tree.Named := by
  rcases apply_cases done with ⟨id, fields, context, origin, given, rfl⟩ | ⟨id, rfl⟩
  · refine named.put (Fields.spelled_toEntity context ?_ fun lexeme member => ?_)
    · rcases origin with written | rfl
      · exact legal (.name id) (by
          simp [Script.Command.lexemes, Script.Command.operands, Statement.command, written])
      · exact Identifier.isLegal_ofNumber _ _
    · exact legal lexeme (by simp [Script.Command.lexemes, Script.Command.operands, Statement.command, given, member])
  · exact named.erase _ _

end Draft

/-- A tree that is built from a script has its names in order, and every action in the list of its owner. -/
theorem Compiler.named_of_buildScript
    {compiler : Compiler}
    {script : String}
    (built : compiler.buildScript script = .ok tree) :
    tree.Named ∧ ∀ action ∈ tree.actions.values, Draft.isUnlisted tree action = false := by
  obtain ⟨tokens, statements, draft, tokenized, parsed, applied, rfl⟩ := buildScript_eq_ok_iff.mp built
  have wellFormed := Script.wellFormed_of_parse tokenized parsed
  have kept {draft changed : Draft} (statement : Statement) (member : statement ∈ statements)
      (named : draft.tree.Named) (done : draft.apply statement = .ok changed) : changed.tree.Named :=
    Draft.named_of_apply (wellFormed statement member).legal named done
  have named : draft.tree.Named := Draft.applyAll_induction (fun draft => draft.tree.Named) kept Tree.named_empty applied
  exact ⟨Draft.named_finish named, Draft.isUnlisted_finish named.keyed⟩

/-! ## Findings -/

namespace Integrity

/-- An error about a tree whose names are in order is about a reference or an orphan. -/
theorem category_of_mem_errors
    {rules : Rules}
    {finding : Finding}
    (named : tree.Named)
    (member : finding ∈ (check rules tree).errors) :
    finding.matter.category ∈ [.danglingReference, .ownershipMismatch, .orphanDialogue] ∨
      finding.matter.category = .unlistedAction ∧
        ∃ action ∈ tree.actions.values, Draft.isUnlisted tree action = true := by
  obtain ⟨noIllegal, noDrifted⟩ := named_iff.mp named
  rw [errors_check, faults, noIllegal, noDrifted, List.append_nil, List.nil_append, List.mem_append] at member
  rcases member with ofReference | ofOrphan
  · rcases category_of_mem_referenceFindings ofReference with dangling | foreign | unlisted
    · exact .inl (by simp [dangling])
    · exact .inl (by simp [foreign])
    · exact .inr unlisted
  · split at ofOrphan
    · obtain ⟨key, _, rfl⟩ := List.mem_map.mp ofOrphan
      exact .inl (by simp [Matter.category])
    · cases ofOrphan

end Integrity

/-- A tree that is built from a script has every entity under its own identifier and legal identifiers and references only,
and the check finds no errors about it but references that lead nowhere, actions that are listed by others than their
owners, and orphans.  In a tree that is read from a document it finds no illegal identifier and no drifted key. -/
theorem errors_of_front_ends :
    (∀ (compiler : Compiler) (script : String) (tree : Tree), compiler.buildScript script = .ok tree →
      tree.Named ∧ ∀ (rules : Rules), ∀ finding ∈ (check rules tree).errors,
        finding.matter.category ∈ [.danglingReference, .ownershipMismatch, .orphanDialogue]) ∧
    ∀ (format : Format) (text : String) (tree : Tree), Tree.decode format text = .ok tree →
      ∀ (rules : Rules), ∀ finding ∈ (check rules tree).errors,
        finding.matter.category ≠ .invalidIdentifier := by
  constructor
  · intro compiler script tree built
    obtain ⟨named, listed⟩ := Compiler.named_of_buildScript built
    refine ⟨named, fun rules finding member => ?_⟩
    rcases Integrity.category_of_mem_errors named member with other | ⟨_, action, stored, unlisted⟩
    · exact other
    · rw [listed action stored] at unlisted
      cases unlisted
  · intro format text tree read rules finding member
    rcases Integrity.category_of_mem_errors (Tree.named_of_decode read) member with other | ⟨unlisted, _⟩
    · rintro illegal
      rw [illegal] at other
      revert other
      decide
    · rw [unlisted]
      exact Category.noConfusion

/-- A scene whose start is not there. -/
def foggyTalk : Tree where
  scenes := .ofList [("a", { id := "a", start := "c" })]

theorem buildScript_foggyTalk :
    Compiler.buildScript {} "create scene a b\nupdate scene a c\n" = .ok foggyTalk := by
  cbv

theorem contexts_foggyTalk :
    ∀ entity ∈ foggyTalk.entities, entity.context.FloatFree ∧ entity.context.depth ≤ 60 := by
  have contexts : foggyTalk.entities.map (fun entity => entity.context.fields) = [[]] := by cbv
  have all : ∀ fields ∈ foggyTalk.entities.map (fun entity => entity.context.fields),
      Value.FloatFreeFields fields ∧ Value.fieldsDepth fields + 1 ≤ 60 := by
    rw [contexts]
    simp [Value.FloatFreeFields, Value.fieldsDepth]
  exact List.forall_mem_map.mp all

/-- The foggy talk is built from a script and read from a document, and its start is all that the check finds. -/
theorem errors_foggyTalk :
    Compiler.buildScript {} "create scene a b\nupdate scene a c\n" = .ok foggyTalk ∧
      (∃ text, Tree.decode .json text = .ok foggyTalk) ∧
        (check {} foggyTalk).errors = [⟨.scene, "a", .missingStart "c", .error⟩] ∧
          foggyTalk.Named ∧ ∀ finding ∈ (check {} foggyTalk).errors,
            finding.matter.category ∈ [.danglingReference, .ownershipMismatch, .orphanDialogue] ∧
              finding.matter.category ≠ .invalidIdentifier := by
  obtain ⟨named, categories⟩ := errors_of_front_ends.1 {} _ foggyTalk buildScript_foggyTalk
  obtain ⟨text, _, read⟩ :=
    (named.encode_decode_iff (fun entity member => (contexts_foggyTalk entity member).1) .json).mpr
      fun entity member => Format.hasRoom_of_depth_le .json (contexts_foggyTalk entity member).2
  have found : (check {} foggyTalk).errors = [⟨.scene, "a", .missingStart "c", .error⟩] := by cbv
  refine ⟨buildScript_foggyTalk, ⟨text, read⟩, found, named, fun finding member => ⟨categories {} finding member, ?_⟩⟩
  exact errors_of_front_ends.2 .json text foggyTalk read {} finding member

end Parley
