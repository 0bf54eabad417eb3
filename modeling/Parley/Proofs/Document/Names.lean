import Parley.Document.Format
import Parley.Proofs.Document.Demands

/-!
# Names in documents

Whatever text is read as a tree, its identifiers are legal: what follows an action is looked at when the fields of the entry
are, and all other identifiers when the entries go into the tree.
-/

namespace Parley

variable {document : Document} {tree : Tree}

namespace PartialDocument

/-- In a complete document, what follows an action is legal: it was read from a text. -/
theorem next_legal_of_complete
    {written : PartialDocument}
    (done : written.complete = .ok document) :
    ∀ action ∈ document.actions, ∀ {next}, action.next = .dialogue next → Identifier.isLegal next := by
  obtain ⟨_, rfl⟩ := (answers_complete written).eq_ok_iff.mp done
  intro action member next follows
  obtain ⟨entry, _, rfl⟩ := List.mem_map.mp member
  rw [PartialAction.filled] at follows
  rcases parsed : Next.parse? (WrittenId.textOf entry.next) with _ | found
  · rw [parsed] at follows
    cases follows
  · rw [parsed] at follows
    exact (Next.parse?_eq_some_iff.mp parsed).2 follows

end PartialDocument

namespace Document

/-- The names of a tree are in order if it was read from a document in which what follows actions is legal. -/
theorem named_of_toTree
    (given : document.toTree = .ok tree)
    (nextLegal : ∀ action ∈ document.actions, ∀ {next}, action.next = .dialogue next → Identifier.isLegal next) :
    tree.Named := by
  refine ⟨fun found => ((get?_toTree_eq_some_iff given).mp found).2.2, fun {kind key entity} found => ?_⟩
  have member := ((get?_toTree_eq_some_iff given).mp found).1
  have checked := (legal_and_distinct_of_toTree given).1 entity member
  cases entity with
  | scene scene => exact checked
  | dialogue dialogue => exact checked
  | action action =>
      have written : action ∈ document.actions := by simpa [entities] using member
      obtain ⟨idLegal, ownerLegal⟩ := List.forall_mem_cons.mp checked
      exact Entity.spelled_action_iff.mpr ⟨idLegal, ownerLegal _ List.mem_cons_self, nextLegal action written⟩

end Document

/-- The names of every tree that is read from a text are in order. -/
theorem Tree.named_of_decode
    {format : Format}
    {text : String}
    (read : decode format text = .ok tree) :
    tree.Named := by
  obtain ⟨document, parsed, given⟩ := bind_eq_ok_iff.mp read
  obtain ⟨written, _, done⟩ := bind_eq_ok_iff.mp parsed
  exact Document.named_of_toTree (mapError_eq_ok_iff.mp given)
    (PartialDocument.next_legal_of_complete (mapError_eq_ok_iff.mp done))

end Parley
