import Parley.Proofs.InPlace
import Parley.Proofs.Integrity.WellFormed
import Parley.Proofs.Stages
import Parley.Workspace

/-!
# Calls to a workspace

A workspace is used by one call after another, and some calls read or write a file.  Calls read all they need before they
change anything in place, so one that fails leaves the tree and the files as they are.  After any calls the tree is one that
the compiler of the workspace certifies.
-/

namespace Parley

open Integrity (ValidTree)

/-- A call to a workspace. -/
inductive Workspace.Call where
  | loadScript (path : String)
  | loadDocument (path : String)
  | replace (tree : Tree)
  | clear
  | save (path : String)

namespace Desk

/-- A workspace without a tree, in front of some files. -/
def start (compiler : Compiler) (files : Files) : Desk := ⟨{ compiler }, files⟩

/-- Make a call in place. -/
def Work.call : Workspace.Call → Work Unit
  | .loadScript path => do
    let _ ← loadScript path
    return ()
  | .loadDocument path => do
    let _ ← loadDocument path
    return ()
  | .replace tree => do
    let _ ← replace tree
    return ()
  | .clear => do
    let _ ← clear
    return ()
  | .save path => save path

/-- What there is after a call that succeeds. -/
def attempt (desk : Desk) (call : Workspace.Call) : Except WorkspaceError Desk :=
  (InPlace.outcome (Work.call call) desk).map Prod.snd

/-- What there is after a call. -/
def perform (desk : Desk) (call : Workspace.Call) : Desk := InPlace.left (Work.call call) desk

/-- What there is after calls one after another. -/
def run (desk : Desk) (calls : List Workspace.Call) : Desk := calls.foldl perform desk

end Desk

/-! ## What a workspace holds -/

/-- The tree of a workspace is certified by its compiler, which finds the same again. -/
def Workspace.Sound (workspace : Workspace) : Prop :=
  ∀ valid ∈ workspace.current, workspace.compiler.validate valid.tree = .ok valid

namespace Workspace

variable {workspace : Workspace} {path : String} {tree : Tree}

theorem sound_hold
    {valid : ValidTree}
    (accepted : workspace.compiler.validate tree = .ok valid) :
    (workspace.hold valid).Sound := by
  rintro _ ⟨⟩
  obtain ⟨-, same, -⟩ := Integrity.validate_eq_ok_iff.mp accepted
  rw [same]
  exact accepted

theorem formatFor_eq_ok_iff
    {format : Format} :
    formatFor path = .ok format ↔ Format.ofPath? path = some format := by
  unfold formatFor
  cases Format.ofPath? path with
  | none => exact iff_of_false nofun nofun
  | some known => rw [Except.ok.injEq, Option.some.injEq]

end Workspace

/-! ## Calls in place -/

namespace Desk.Work

open InPlace (AllOrNothing NeverFails onlyReads_get onlyReads_ofExcept outcome_get_bind outcome_ofExcept_bind)

variable {desk changed : Desk} {path : String} {tree : Tree} {valid : ValidTree}

theorem outcome_hold
    (valid : ValidTree)
    (desk : Desk) :
    InPlace.outcome (hold valid) desk = .ok (valid, { desk with workspace := desk.workspace.hold valid }) := rfl

theorem allOrNothing_hold
    (valid : ValidTree) :
    AllOrNothing (hold valid) :=
  ((InPlace.neverFails_modify _).bind fun _ => InPlace.neverFails_pure valid).allOrNothing

/-- A script is loaded if all stages from its file to a certified tree succeed, and then its tree is held. -/
theorem loadScript_eq_ok_iff :
    InPlace.outcome (loadScript path) desk = .ok (valid, changed) ↔
      ∃ script tree,
        desk.files.read path = .ok script ∧ desk.workspace.compiler.buildScript script = .ok tree ∧
          desk.workspace.compiler.validate tree = .ok valid ∧
            changed = { desk with workspace := desk.workspace.hold valid } := by
  simp only [loadScript, outcome_get_bind, outcome_ofExcept_bind, outcome_hold, Compiler.compileScript, bind_eq_ok_iff,
    mapError_eq_ok_iff]
  constructor
  · rintro ⟨script, read, _, ⟨tree, built, certified⟩, ⟨⟩⟩
    exact ⟨script, tree, read, built, certified, rfl⟩
  · rintro ⟨script, tree, read, built, certified, rfl⟩
    exact ⟨script, read, valid, ⟨tree, built, certified⟩, rfl⟩

/-- A document is loaded if its format is known and all stages from its file to a certified tree succeed, and then its tree
is held. -/
theorem loadDocument_eq_ok_iff :
    InPlace.outcome (loadDocument path) desk = .ok (valid, changed) ↔
      ∃ format text tree,
        Format.ofPath? path = some format ∧ desk.files.read path = .ok text ∧
          Compiler.readDocument format text = .ok tree ∧ desk.workspace.compiler.validate tree = .ok valid ∧
            changed = { desk with workspace := desk.workspace.hold valid } := by
  simp only [loadDocument, outcome_get_bind, outcome_ofExcept_bind, outcome_hold, Compiler.compileDocument, bind_eq_ok_iff,
    mapError_eq_ok_iff, Workspace.formatFor_eq_ok_iff]
  constructor
  · rintro ⟨format, known, text, read, _, ⟨tree, decoded, certified⟩, ⟨⟩⟩
    exact ⟨format, text, tree, known, read, decoded, certified, rfl⟩
  · rintro ⟨format, text, tree, known, read, decoded, certified, rfl⟩
    exact ⟨format, known, text, read, valid, ⟨tree, decoded, certified⟩, rfl⟩

theorem replace_eq_ok_iff :
    InPlace.outcome (replace tree) desk = .ok (valid, changed) ↔
      desk.workspace.compiler.validate tree = .ok valid ∧
        changed = { desk with workspace := desk.workspace.hold valid } := by
  simp only [replace, outcome_get_bind, outcome_ofExcept_bind, outcome_hold, bind_eq_ok_iff, mapError_eq_ok_iff]
  constructor
  · rintro ⟨_, certified, ⟨⟩⟩
    exact ⟨certified, rfl⟩
  · rintro ⟨certified, rfl⟩
    exact ⟨valid, certified, rfl⟩

/-- A tree is saved if the format is known, the tree has a text in it, and the text can be written, and then nothing but the
files has changed. -/
theorem save_eq_ok_iff :
    InPlace.outcome (save path) desk = .ok ((), changed) ↔
      ∃ format text written,
        Format.ofPath? path = some format ∧ desk.workspace.savedTree.encode format = .ok text ∧
          desk.files.write path text = .ok written ∧ changed = { desk with files := written } := by
  simp only [save, outcome_get_bind, outcome_ofExcept_bind, bind_eq_ok_iff, mapError_eq_ok_iff,
    Workspace.formatFor_eq_ok_iff]
  constructor
  · rintro ⟨format, known, text, encoded, written, done, ⟨⟩⟩
    exact ⟨format, text, written, known, encoded, done, rfl⟩
  · rintro ⟨format, text, written, known, encoded, done, rfl⟩
    exact ⟨format, known, text, encoded, written, done, rfl⟩

theorem allOrNothing_loadScript
    (path : String) :
    AllOrNothing (loadScript path) := by
  refine onlyReads_get.bind fun desk => ?_
  refine (onlyReads_ofExcept _).bind fun script => ?_
  refine (onlyReads_ofExcept _).bind fun valid => ?_
  exact allOrNothing_hold valid

theorem allOrNothing_loadDocument
    (path : String) :
    AllOrNothing (loadDocument path) := by
  refine onlyReads_get.bind fun desk => ?_
  refine (onlyReads_ofExcept _).bind fun format => ?_
  refine (onlyReads_ofExcept _).bind fun text => ?_
  refine (onlyReads_ofExcept _).bind fun valid => ?_
  exact allOrNothing_hold valid

theorem allOrNothing_replace
    (tree : Tree) :
    AllOrNothing (replace tree) := by
  refine onlyReads_get.bind fun desk => ?_
  refine (onlyReads_ofExcept _).bind fun valid => ?_
  exact allOrNothing_hold valid

theorem neverFails_clear : NeverFails clear := fun _ => ⟨_, _, rfl⟩

theorem allOrNothing_save
    (path : String) :
    AllOrNothing (save path) := by
  refine onlyReads_get.bind fun desk => ?_
  refine (onlyReads_ofExcept _).bind fun format => ?_
  refine (onlyReads_ofExcept _).bind fun text => ?_
  refine (onlyReads_ofExcept _).bind fun written => ?_
  exact (InPlace.neverFails_set _).allOrNothing

/-- Every call reads all it needs before it changes anything. -/
theorem allOrNothing_call
    (call : Workspace.Call) :
    AllOrNothing (Work.call call) := by
  cases call with
  | loadScript path => exact (allOrNothing_loadScript path).bind fun _ => InPlace.neverFails_pure ()
  | loadDocument path => exact (allOrNothing_loadDocument path).bind fun _ => InPlace.neverFails_pure ()
  | replace tree => exact (allOrNothing_replace tree).bind fun _ => InPlace.neverFails_pure ()
  | clear => exact neverFails_clear.allOrNothing.bind fun _ => InPlace.neverFails_pure ()
  | save path => exact allOrNothing_save path

end Desk.Work

namespace Workspace

variable {workspace changed : Workspace} {files : Files} {path : String}

/-- A script is loaded if all stages from its file to a certified tree succeed. -/
theorem loadScript_eq_ok_iff :
    workspace.loadScript files path = .ok changed ↔
      ∃ script tree valid,
        files.read path = .ok script ∧ workspace.compiler.buildScript script = .ok tree ∧
          workspace.compiler.validate tree = .ok valid ∧ changed = workspace.hold valid := by
  rw [loadScript, map_eq_ok_iff]
  constructor
  · rintro ⟨⟨valid, desk⟩, loaded, rfl⟩
    obtain ⟨script, tree, read, built, certified, rfl⟩ := Desk.Work.loadScript_eq_ok_iff.mp loaded
    exact ⟨script, tree, valid, read, built, certified, rfl⟩
  · rintro ⟨script, tree, valid, read, built, certified, rfl⟩
    exact ⟨_, Desk.Work.loadScript_eq_ok_iff.mpr ⟨script, tree, read, built, certified, rfl⟩, rfl⟩

/-- A document is loaded if its format is known and all stages from its file to a certified tree succeed. -/
theorem loadDocument_eq_ok_iff :
    workspace.loadDocument files path = .ok changed ↔
      ∃ format text tree valid,
        Format.ofPath? path = some format ∧ files.read path = .ok text ∧ Compiler.readDocument format text = .ok tree ∧
          workspace.compiler.validate tree = .ok valid ∧ changed = workspace.hold valid := by
  rw [loadDocument, map_eq_ok_iff]
  constructor
  · rintro ⟨⟨valid, desk⟩, loaded, rfl⟩
    obtain ⟨format, text, tree, known, read, decoded, certified, rfl⟩ := Desk.Work.loadDocument_eq_ok_iff.mp loaded
    exact ⟨format, text, tree, valid, known, read, decoded, certified, rfl⟩
  · rintro ⟨format, text, tree, valid, known, read, decoded, certified, rfl⟩
    exact ⟨_, Desk.Work.loadDocument_eq_ok_iff.mpr ⟨format, text, tree, known, read, decoded, certified, rfl⟩, rfl⟩

/-- A tree is saved if the format is known, the tree has a text in it, and the text can be written. -/
theorem save_eq_ok_iff
    {written : Files} :
    workspace.save files path = .ok written ↔
      ∃ format text,
        Format.ofPath? path = some format ∧ workspace.savedTree.encode format = .ok text ∧
          files.write path text = .ok written := by
  rw [save, map_eq_ok_iff]
  constructor
  · rintro ⟨⟨_, desk⟩, saved, rfl⟩
    obtain ⟨format, text, written, known, encoded, wrote, rfl⟩ := Desk.Work.save_eq_ok_iff.mp saved
    exact ⟨format, text, known, encoded, wrote⟩
  · rintro ⟨format, text, known, encoded, wrote⟩
    exact ⟨_, Desk.Work.save_eq_ok_iff.mpr ⟨format, text, written, known, encoded, wrote, rfl⟩, rfl⟩

end Workspace

namespace Desk

variable {desk changed : Desk} {call : Workspace.Call} {valid : ValidTree}

/-! ## What calls give -/

/-- A call gives a certified tree if it loads or replaces, and each of its stages succeeds on the files as they are. -/
inductive Gives (desk : Desk) : Workspace.Call → ValidTree → Prop where
  | script {path script : String} {tree : Tree} {valid : ValidTree} :
      desk.files.read path = .ok script →
      desk.workspace.compiler.buildScript script = .ok tree →
      desk.workspace.compiler.validate tree = .ok valid →
      Gives desk (.loadScript path) valid
  | document {path text : String} {format : Format} {tree : Tree} {valid : ValidTree} :
      Format.ofPath? path = some format →
      desk.files.read path = .ok text →
      Compiler.readDocument format text = .ok tree →
      desk.workspace.compiler.validate tree = .ok valid →
      Gives desk (.loadDocument path) valid
  | replacement {tree : Tree} {valid : ValidTree} :
      desk.workspace.compiler.validate tree = .ok valid →
      Gives desk (.replace tree) valid

/-- What a call gives is certified by the compiler of the workspace. -/
theorem Gives.sound
    (given : desk.Gives call valid) :
    (desk.workspace.hold valid).Sound := by
  cases given with
  | script _ _ certified => exact Workspace.sound_hold certified
  | document _ _ _ certified => exact Workspace.sound_hold certified
  | replacement certified => exact Workspace.sound_hold certified

/-- A call that leaves something to be thrown away succeeds if what it does succeeds. -/
theorem outcome_discarded_iff
    {α : Type}
    {work : Work α} :
    (InPlace.outcome (work >>= fun _ => pure ()) desk).map Prod.snd = .ok changed ↔
      ∃ value, InPlace.outcome work desk = .ok (value, changed) := by
  rw [InPlace.outcome_bind]
  cases InPlace.outcome work desk with
  | error error => exact iff_of_false nofun nofun
  | ok made =>
      obtain ⟨value, after⟩ := made
      constructor
      · rintro ⟨⟩
        exact ⟨value, rfl⟩
      · rintro ⟨_, ⟨⟩⟩
        rfl

theorem attempt_save_eq_ok_iff
    {path : String} :
    desk.attempt (.save path) = .ok changed ↔
      ∃ written, desk.workspace.save desk.files path = .ok written ∧ changed = { desk with files := written } := by
  constructor
  · intro done
    obtain ⟨⟨_, _⟩, saved, rfl⟩ := map_eq_ok_iff.mp done
    obtain ⟨format, text, written, known, encoded, wrote, rfl⟩ := Work.save_eq_ok_iff.mp saved
    exact ⟨written, Workspace.save_eq_ok_iff.mpr ⟨format, text, known, encoded, wrote⟩, rfl⟩
  · rintro ⟨written, saved, rfl⟩
    obtain ⟨format, text, known, encoded, wrote⟩ := Workspace.save_eq_ok_iff.mp saved
    exact map_eq_ok_iff.mpr ⟨_, Work.save_eq_ok_iff.mpr ⟨format, text, written, known, encoded, wrote, rfl⟩, rfl⟩

/-- A call that succeeds gives a tree, which is held from then on, or clears the workspace, or writes a file. -/
theorem attempt_eq_ok_iff :
    desk.attempt call = .ok changed ↔
      (∃ valid, desk.Gives call valid ∧ changed = { desk with workspace := desk.workspace.hold valid }) ∨
      (call = .clear ∧ changed = { desk with workspace := desk.workspace.clear }) ∨
      ∃ path written, call = .save path ∧ desk.workspace.save desk.files path = .ok written ∧
        changed = { desk with files := written } := by
  constructor
  · intro done
    cases call with
    | loadScript path =>
        obtain ⟨valid, loaded⟩ := outcome_discarded_iff.mp done
        obtain ⟨script, tree, read, built, certified, rfl⟩ := Work.loadScript_eq_ok_iff.mp loaded
        exact .inl ⟨valid, .script read built certified, rfl⟩
    | loadDocument path =>
        obtain ⟨valid, loaded⟩ := outcome_discarded_iff.mp done
        obtain ⟨format, text, tree, known, read, decoded, certified, rfl⟩ := Work.loadDocument_eq_ok_iff.mp loaded
        exact .inl ⟨valid, .document known read decoded certified, rfl⟩
    | replace tree =>
        obtain ⟨valid, replaced⟩ := outcome_discarded_iff.mp done
        obtain ⟨certified, rfl⟩ := Work.replace_eq_ok_iff.mp replaced
        exact .inl ⟨valid, .replacement certified, rfl⟩
    | clear =>
        cases done
        exact .inr (.inl ⟨rfl, rfl⟩)
    | save path =>
        obtain ⟨written, saved, rfl⟩ := attempt_save_eq_ok_iff.mp done
        exact .inr (.inr ⟨path, written, rfl, saved, rfl⟩)
  · rintro (⟨valid, given, rfl⟩ | ⟨rfl, rfl⟩ | ⟨path, written, rfl, saved, rfl⟩)
    · cases given with
      | script read built certified =>
          exact outcome_discarded_iff.mpr ⟨valid, Work.loadScript_eq_ok_iff.mpr ⟨_, _, read, built, certified, rfl⟩⟩
      | document known read decoded certified =>
          exact outcome_discarded_iff.mpr
            ⟨valid, Work.loadDocument_eq_ok_iff.mpr ⟨_, _, _, known, read, decoded, certified, rfl⟩⟩
      | replacement certified =>
          exact outcome_discarded_iff.mpr ⟨valid, Work.replace_eq_ok_iff.mpr ⟨certified, rfl⟩⟩
    · rfl
    · exact attempt_save_eq_ok_iff.mpr ⟨written, saved, rfl⟩

/-! ## Runs -/

theorem perform_of_ok
    (done : desk.attempt call = .ok changed) :
    desk.perform call = changed := by
  obtain ⟨⟨_, _⟩, made, rfl⟩ := map_eq_ok_iff.mp done
  exact InPlace.left_of_outcome made

theorem perform_of_gives
    (given : desk.Gives call valid) :
    desk.perform call = { desk with workspace := desk.workspace.hold valid } :=
  perform_of_ok (attempt_eq_ok_iff.mpr (.inl ⟨valid, given, rfl⟩))

/-- A call that fails changes nothing. -/
theorem perform_of_error
    {error : WorkspaceError}
    (failed : desk.attempt call = .error error) :
    desk.perform call = desk :=
  (Work.allOrNothing_call call).left_of_outcome (map_eq_error_iff.mp failed)

/-- A call that succeeds keeps the compiler, and leaves the workspace with a tree that it certifies. -/
theorem sound_of_attempt
    (done : desk.attempt call = .ok changed)
    (sound : desk.workspace.Sound) :
    changed.workspace.compiler = desk.workspace.compiler ∧ changed.workspace.Sound := by
  obtain ⟨valid, given, rfl⟩ | ⟨-, rfl⟩ | ⟨path, written, -, -, rfl⟩ := attempt_eq_ok_iff.mp done
  · exact ⟨rfl, given.sound⟩
  · exact ⟨rfl, nofun⟩
  · exact ⟨rfl, sound⟩

theorem sound_of_perform
    (call : Workspace.Call)
    (sound : desk.workspace.Sound) :
    (desk.perform call).workspace.compiler = desk.workspace.compiler ∧ (desk.perform call).workspace.Sound := by
  cases done : desk.attempt call with
  | error fault =>
      rw [perform_of_error done]
      exact ⟨rfl, sound⟩
  | ok changed =>
      rw [perform_of_ok done]
      exact sound_of_attempt done sound

/-- After any calls the workspace has its compiler, and a tree that the compiler certifies if it has one. -/
theorem sound_of_run
    (calls : List Workspace.Call)
    (sound : desk.workspace.Sound) :
    (desk.run calls).workspace.compiler = desk.workspace.compiler ∧ (desk.run calls).workspace.Sound := by
  induction calls generalizing desk with
  | nil => exact ⟨rfl, sound⟩
  | cons call rest inductionHypothesis =>
      obtain ⟨compiler, stillSound⟩ := sound_of_perform call sound
      obtain ⟨same, restSound⟩ := inductionHypothesis stillSound
      exact ⟨same.trans compiler, restSound⟩

theorem sound_start
    (compiler : Compiler)
    (files : Files) :
    (start compiler files).workspace.Sound := nofun

end Desk
end Parley
