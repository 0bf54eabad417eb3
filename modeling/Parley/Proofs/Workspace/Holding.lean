import Mathlib.Data.List.Induction
import Parley.Proofs.Files
import Parley.Proofs.Workspace.Calls

/-!
# What a workspace holds

After any calls a workspace holds the tree that a call gave last, or nothing if it was cleared since then or no call gave a
tree.  Saving keeps the tree, and touches no other file than the one that is saved to.
-/

namespace Parley

open Integrity (ValidTree)

namespace Desk

variable {desk : Desk} {calls : List Workspace.Call} {call : Workspace.Call} {valid : ValidTree}

/-- A call that neither clears the workspace nor gives a tree. -/
def Keeps
    (desk : Desk)
    (call : Workspace.Call) : Prop :=
  call ≠ .clear ∧ ∀ valid, ¬desk.Gives call valid

/-- One of the calls gave a tree, and all calls after it kept it. -/
def LastGives
    (desk : Desk)
    (calls : List Workspace.Call)
    (valid : ValidTree) : Prop :=
  ∃ before call after,
    calls = before ++ call :: after ∧ (desk.run before).Gives call valid ∧
      ∀ earlier next later, after = earlier ++ next :: later → (desk.run (before ++ call :: earlier)).Keeps next

/-! ## One call -/

theorem perform_of_keeps
    (kept : desk.Keeps call) :
    (desk.perform call).workspace = desk.workspace := by
  cases done : desk.attempt call with
  | error fault => rw [perform_of_error done]
  | ok changed =>
      rw [perform_of_ok done]
      obtain ⟨valid, given, -⟩ | ⟨clears, -⟩ | ⟨path, written, -, -, rfl⟩ := attempt_eq_ok_iff.mp done
      · exact absurd given (kept.2 valid)
      · exact absurd clears kept.1
      · rfl

/-- What is held after a call was given by the call, or was held before and is kept. -/
theorem current_perform_iff :
    (desk.perform call).workspace.current = some valid ↔
      desk.Gives call valid ∨ desk.Keeps call ∧ desk.workspace.current = some valid := by
  by_cases kept : desk.Keeps call
  · simp [perform_of_keeps kept, kept, kept.2 valid]
  by_cases gives : ∃ other, desk.Gives call other
  · obtain ⟨other, given⟩ := gives
    have held : (desk.perform call).workspace.current = some other := by rw [perform_of_gives given, Workspace.hold]
    rw [held]
    simp only [kept, false_and, or_false]
    constructor
    · rintro ⟨⟩
      exact given
    · intro alsoGiven
      rw [← held, perform_of_gives alsoGiven, Workspace.hold]
  · have none : ∀ other, ¬desk.Gives call other := not_exists.mp gives
    have clears : call = .clear := by
      by_contra goesOn
      exact kept ⟨goesOn, none⟩
    subst clears
    simp only [none valid, kept, false_and, or_false]
    exact iff_of_false nofun not_false

/-! ## Many calls -/

theorem run_concat
    (desk : Desk)
    (calls : List Workspace.Call)
    (call : Workspace.Call) :
    desk.run (calls ++ [call]) = (desk.run calls).perform call :=
  List.foldl_concat ..

theorem lastGives_nil : ¬desk.LastGives [] valid := by
  rintro ⟨before, call, after, split, -⟩
  simp at split

theorem lastGives_concat_iff :
    desk.LastGives (calls ++ [call]) valid ↔
      (desk.run calls).Gives call valid ∨ (desk.run calls).Keeps call ∧ desk.LastGives calls valid := by
  constructor
  · rintro ⟨before, giver, after, split, given, kept⟩
    obtain rfl | ⟨after, last, rfl⟩ := after.eq_nil_or_concat'
    · obtain ⟨rfl, ⟨⟩⟩ := List.append_inj' split rfl
      exact .inl given
    · rw [← List.cons_append, ← List.append_assoc] at split
      obtain ⟨rfl, ⟨⟩⟩ := List.append_inj' split rfl
      refine .inr ⟨kept after call [] rfl, before, giver, after, rfl, given, ?_⟩
      rintro earlier next later rfl
      exact kept earlier next (later ++ [call]) (by simp)
  · rintro (given | ⟨keepsLast, before, giver, after, rfl, given, kept⟩)
    · refine ⟨calls, call, [], rfl, given, fun earlier next later split => ?_⟩
      simp at split
    · refine ⟨before, giver, after ++ [call], by simp, given, fun earlier next later split => ?_⟩
      obtain rfl | ⟨later, last, rfl⟩ := later.eq_nil_or_concat'
      · obtain ⟨rfl, ⟨⟩⟩ := List.append_inj' split rfl
        exact keepsLast
      · rw [← List.cons_append, ← List.append_assoc] at split
        obtain ⟨rfl, -⟩ := List.append_inj' split rfl
        exact kept earlier next later rfl

/-- A workspace that held nothing holds what was given last. -/
theorem current_run_iff
    (fresh : desk.workspace.current = none) :
    (desk.run calls).workspace.current = some valid ↔ desk.LastGives calls valid := by
  induction calls using List.reverseRecOn with
  | nil =>
      refine iff_of_false ?_ lastGives_nil
      rw [run, List.foldl_nil, fresh]
      exact nofun
  | append_singleton calls call inductionHypothesis =>
      rw [run_concat, current_perform_iff, lastGives_concat_iff, inductionHypothesis]

/-! ## Saving -/

/-- Saving keeps the workspace, and touches nothing but its target. -/
theorem alikeBut_perform_save
    (desk : Desk)
    (path : String) :
    (desk.perform (.save path)).workspace = desk.workspace ∧
      desk.files.AlikeBut path (desk.perform (.save path)).files := by
  refine ⟨perform_of_keeps ⟨nofun, fun _ => nofun⟩, ?_⟩
  cases done : desk.attempt (.save path) with
  | error fault =>
      rw [perform_of_error done]
      exact desk.files.alikeBut_self path
  | ok changed =>
      rw [perform_of_ok done]
      obtain ⟨written, saved, rfl⟩ := attempt_save_eq_ok_iff.mp done
      obtain ⟨format, text, -, -, wrote⟩ := Workspace.save_eq_ok_iff.mp saved
      exact Files.alikeBut_of_write wrote

/-- Without a known format, or if the tree has no text in it, saving fails. -/
theorem exists_attempt_save_eq_error
    {path : String}
    (unwritable : Format.ofPath? path = none ∨
      ∃ format error, Format.ofPath? path = some format ∧ desk.workspace.savedTree.encode format = .error error) :
    ∃ error, desk.attempt (.save path) = .error error := by
  cases done : desk.attempt (.save path) with
  | error fault => exact ⟨fault, rfl⟩
  | ok changed =>
      obtain ⟨written, saved, -⟩ := attempt_save_eq_ok_iff.mp done
      obtain ⟨format, text, known, encoded, -⟩ := Workspace.save_eq_ok_iff.mp saved
      obtain unknown | ⟨other, error, isOther, failed⟩ := unwritable
      · cases unknown.symm.trans known
      · obtain rfl := Option.some.inj (isOther.symm.trans known)
        cases failed.symm.trans encoded

/-- Whatever calls a new workspace was used for, it holds the tree that was given by the last load or replacement that
succeeded, if the workspace was not cleared after it, and holds nothing otherwise.  Its compiler certifies this tree, with
the findings that are kept with it.  A call that fails changes nothing.  Saving keeps the workspace and all files but its
target, and the target too if the format is unknown or the tree has no text in it. -/
theorem run_holds_last_given
    (compiler : Compiler)
    (files : Files)
    (calls : List Workspace.Call) :
    ∃ desk,
      (start compiler files).run calls = desk ∧
      desk.workspace.compiler = compiler ∧
      (∀ valid, desk.workspace.current = some valid →
        compiler.validate valid.tree = .ok valid ∧ valid.diagnostics = Integrity.check compiler.rules valid.tree) ∧
      (∀ valid, desk.workspace.current = some valid ↔ (start compiler files).LastGives calls valid) ∧
      (∀ call error, desk.attempt call = .error error → desk.perform call = desk) ∧
      ∀ path,
        (desk.perform (.save path)).workspace = desk.workspace ∧
        desk.files.AlikeBut path (desk.perform (.save path)).files ∧
        ((Format.ofPath? path = none ∨
            ∃ format error, Format.ofPath? path = some format ∧ desk.workspace.savedTree.encode format = .error error) →
          (desk.perform (.save path)).files = desk.files) := by
  obtain ⟨sameCompiler, sound⟩ := sound_of_run calls (sound_start compiler files)
  refine ⟨_, rfl, sameCompiler, fun valid held => ?_, fun valid => current_run_iff rfl, ?_, fun path => ?_⟩
  · have certified := sound valid held
    rw [sameCompiler] at certified
    exact ⟨certified, (Integrity.validate_eq_ok_iff.mp certified).2.2⟩
  · exact fun call error failed => perform_of_error failed
  · obtain ⟨kept, alike⟩ := alikeBut_perform_save ((start compiler files).run calls) path
    refine ⟨kept, alike, fun unwritable => ?_⟩
    obtain ⟨error, failed⟩ := exists_attempt_save_eq_error unwritable
    rw [perform_of_error failed]

end Desk
end Parley
