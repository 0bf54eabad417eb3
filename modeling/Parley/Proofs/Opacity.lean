import Mathlib
import Parley.Proofs.Conversation.Bare
import Parley.Proofs.Document.RoundTrip
import Parley.Proofs.Draft.Bare

/-!
# Contexts are opaque

Developer data is kept and handed back, and nothing depends on it: not what the check finds, not how a tree is played, and
not what becomes of statements that are applied to it.
-/

namespace Parley

open Conversation (transcript Request)
open Integrity (Rules ValidTree check validate)
open Script (Statement)

/-- Of trees that are equal but for their contexts, one is certified exactly when the other is. -/
theorem Integrity.exists_validate_of_bare_eq
    {left right : Tree}
    {rules : Rules}
    {leftValid : ValidTree}
    (alike : left.bare = right.bare)
    (accepted : validate rules left = .ok leftValid) :
    ∃ rightValid, validate rules right = .ok rightValid ∧ leftValid.tree = left ∧ rightValid.tree = right ∧
      leftValid.diagnostics = rightValid.diagnostics := by
  obtain ⟨wellFormed, sameTree, sameFindings⟩ := validate_eq_ok_iff.mp accepted
  have ok := isOk_check_iff.mpr wellFormed
  rw [check_eq_of_bare_eq alike] at ok sameFindings
  exact ⟨⟨right, check rules right, rules, rfl, ok⟩, dif_pos ok, sameTree, rfl, sameFindings⟩

/-- Trees that are equal but for their contexts cannot be told apart.  The check finds the same in both.  If one is
certified, so is the other, and a player who asks the same of both gets the same from both.  Statements are done or refused
alike, the same identifiers are made up for them, and the finished trees are equal but for their contexts again. -/
theorem alike_of_bare_eq
    {left right : Tree}
    (alike : left.bare = right.bare) :
    (∀ rules, check rules left = check rules right) ∧
      (∀ rules leftValid, validate rules left = .ok leftValid →
        ∃ rightValid, validate rules right = .ok rightValid ∧ leftValid.diagnostics = rightValid.diagnostics ∧
          ∀ requests : List Request, transcript leftValid none requests = transcript rightValid none requests) ∧
      ∀ statements : List Statement,
        (Draft.ofTree left).history statements = (Draft.ofTree right).history statements ∧
          ((Draft.ofTree left).attemptAll statements).finish.bare =
            ((Draft.ofTree right).attemptAll statements).finish.bare := by
  refine ⟨Integrity.check_eq_of_bare_eq alike, fun rules leftValid accepted => ?_, fun statements => ?_⟩
  · obtain ⟨rightValid, alsoAccepted, ofLeft, ofRight, findings⟩ := Integrity.exists_validate_of_bare_eq alike accepted
    refine ⟨rightValid, alsoAccepted, findings, Conversation.transcript_eq_of_bare_eq ?_ none⟩
    rw [ofLeft, ofRight, alike]
  · have drafts : (Draft.ofTree left).bare = (Draft.ofTree right).bare := congrArg Draft.ofTree alike
    constructor
    · rw [← Draft.history_bare, drafts, Draft.history_bare]
    · rw [← Draft.finish_bare, ← Draft.attemptAll_bare, drafts, Draft.attemptAll_bare, Draft.finish_bare]

/-- The seasoned small talk is not the same as without its contexts, and cannot be told from it: not by the check, not by
playing it, and not by adding a reply to it, which gets the number zero in both. -/
theorem alike_seasonedTalk :
    seasonedTalk.bare = seasonedTalk.bare.bare ∧ seasonedTalk ≠ seasonedTalk.bare ∧
      check {} seasonedTalk = check {} seasonedTalk.bare ∧
        (∃ valid bareValid, validate {} seasonedTalk = .ok valid ∧ validate {} seasonedTalk.bare = .ok bareValid ∧
          ∀ requests : List Request, transcript valid none requests = transcript bareValid none requests) ∧
          (Draft.ofTree seasonedTalk.bare).history
              [⟨1, .create, .action, none, some (.action "hello" .finish none), .start⟩] =
            [(.ok (), some "0000")] := by
  have alike : seasonedTalk.bare = seasonedTalk.bare.bare := (Tree.bare_bare _).symm
  have seasoned : (seasonedTalk.scenes.get? "tavern").map (fun scene => scene.context.fields.length) = some 2 := by cbv
  have distinct : seasonedTalk ≠ seasonedTalk.bare := by
    intro same
    rw [same, Tree.scenes_get?_bare, Option.map_map] at seasoned
    cases stored : seasonedTalk.scenes.get? "tavern" <;> rw [stored] at seasoned <;> cases seasoned
  have accepted : validate {} seasonedTalk = .ok ⟨seasonedTalk, check {} seasonedTalk, {}, rfl, isOk_check_seasonedTalk⟩ :=
    dif_pos isOk_check_seasonedTalk
  obtain ⟨sameCheck, played, built⟩ := alike_of_bare_eq alike
  obtain ⟨bareValid, alsoAccepted, _, same⟩ := played {} _ accepted
  refine ⟨alike, distinct, sameCheck {}, ⟨_, bareValid, accepted, alsoAccepted, same⟩, ?_⟩
  rw [← (built _).1]
  cbv

end Parley
