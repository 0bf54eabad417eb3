import Mathlib
import Parley.Proofs.Files.Listing
import Parley.Proofs.Workspace.Calls
import Parley.Tool.Linter

/-!
# Linting and loading

The linter reads a file, makes a tree of it, checks the tree and counts the errors.  A workspace does the first two, and
certifies the tree.  They agree: the linter counts no error exactly if a workspace with its compiler loads every file that
it checks.
-/

namespace Parley

open Integrity (WellFormed)

/-- Load a file as a document if its path has the extension of one, else as a script. -/
def Workspace.load (workspace : Workspace) (files : Files) (path : String) : Except WorkspaceError Workspace :=
  match Format.ofPath? path with
  | some _ => workspace.loadDocument files path
  | none => workspace.loadScript files path

namespace Tool
namespace Linter

variable {compiler : Compiler} {workspace : Workspace} {files : Files} {target path : String}

/-! ## One file -/

theorem treeIn_eq_ok_iff
    {tree : Tree} :
    treeIn compiler files path = .ok tree ↔
      ∃ text, files.read path = .ok text ∧
        match Format.ofPath? path with
        | some format => Compiler.readDocument format text = .ok tree
        | none => compiler.buildScript text = .ok tree := by
  rw [treeIn, bind_eq_ok_iff]
  refine exists_congr fun text => and_congr mapError_eq_ok_iff ?_
  cases Format.ofPath? path <;> rfl

/-- A workspace loads a file if there is a tree in it that is well formed. -/
theorem exists_load_iff :
    (∃ loaded, workspace.load files path = .ok loaded) ↔
      ∃ tree, treeIn workspace.compiler files path = .ok tree ∧ WellFormed workspace.compiler.rules tree := by
  simp only [Workspace.load, treeIn_eq_ok_iff, ← Integrity.exists_validate_iff]
  cases known : Format.ofPath? path with
  | none =>
      simp only [Workspace.loadScript_eq_ok_iff]
      constructor
      · rintro ⟨_, script, tree, valid, read, built, certified, -⟩
        exact ⟨tree, ⟨script, read, built⟩, valid, certified⟩
      · rintro ⟨tree, ⟨script, read, built⟩, valid, certified⟩
        exact ⟨_, script, tree, valid, read, built, certified, rfl⟩
  | some format =>
      simp only [Workspace.loadDocument_eq_ok_iff]
      constructor
      · rintro ⟨_, other, text, tree, valid, isOther, read, decoded, certified, -⟩
        obtain rfl := Option.some.inj (known.symm.trans isOther)
        exact ⟨tree, ⟨text, read, decoded⟩, valid, certified⟩
      · rintro ⟨tree, ⟨text, read, decoded⟩, valid, certified⟩
        exact ⟨_, format, text, tree, valid, known, read, decoded, certified, rfl⟩

/-- The linter counts no error in a file if there is a tree in it that is well formed. -/
theorem errorCount_inspect_eq_zero_iff :
    errorCount (inspect compiler files path) = 0 ↔
      ∃ tree, treeIn compiler files path = .ok tree ∧ WellFormed compiler.rules tree := by
  rw [inspect]
  cases treeIn compiler files path with
  | error error => exact iff_of_false Nat.one_ne_zero nofun
  | ok tree =>
      have counted : errorCount (Except.map (Integrity.check compiler.rules) (.ok tree)) = 0 ↔
          WellFormed compiler.rules tree :=
        List.length_eq_zero_iff.trans Integrity.errors_check_eq_nil_iff
      rw [counted]
      simp

theorem errorCount_inspect_eq_zero_iff_exists_load :
    errorCount (inspect workspace.compiler files path) = 0 ↔ ∃ loaded, workspace.load files path = .ok loaded :=
  errorCount_inspect_eq_zero_iff.trans exists_load_iff.symm

/-! ## The files that are checked -/

/-- The linter checks its target if this is a file, else the files below it with an extension of scripts or documents. -/
inductive Lints (files : Files) (target : String) : (path : String) → Prop where
  | target :
      files.isFile target = true →
      Lints files target target
  | below {path extension : String} :
      files.isFile target = false →
      files.isDirectory target = true →
      files.FileBelow target path →
      Path.extension? path = some extension →
      extension ∈ checkedExtensions →
      Lints files target path

theorem exists_targets?_eq_some
    (isThere : files.isFile target = true ∨ files.isDirectory target = true) :
    ∃ paths, targets? files target = some paths ∧ ∀ path, path ∈ paths ↔ Lints files target path := by
  rw [targets?]
  cases isFile : files.isFile target with
  | true =>
      refine ⟨[target], rfl, fun path => List.mem_singleton.trans ?_⟩
      constructor
      · rintro rfl
        exact .target isFile
      · intro lints
        cases lints with
        | target => rfl
        | below noFile => cases isFile.symm.trans noFile
  | false =>
      have isDirectory := isThere.resolve_left (ne_true_of_eq_false isFile)
      rw [if_neg Bool.false_ne_true, if_pos isDirectory]
      refine ⟨_, rfl, fun path => ?_⟩
      rw [List.mem_mergeSort, List.mem_filter, Files.mem_filesBelow_iff isDirectory, Option.any_eq_true]
      constructor
      · rintro ⟨below, extension, found, checked⟩
        exact .below isFile isDirectory below found (List.contains_iff_mem.mp checked)
      · intro lints
        cases lints with
        | target alsoFile => cases isFile.symm.trans alsoFile
        | below _ _ below found checked => exact ⟨below, _, found, List.contains_iff_mem.mpr checked⟩

/-! ## The report -/

theorem total_eq_zero_iff
    {α : Type}
    {count : α → Nat}
    {items : List α} :
    total count items = 0 ↔ ∀ item ∈ items, count item = 0 := by
  induction items with
  | nil => exact iff_of_true rfl (List.forall_mem_nil _)
  | cons first rest inductionHypothesis =>
      rw [total, Nat.add_eq_zero_iff, List.forall_mem_cons, inductionHypothesis]

/-- The report ends with the number of errors.  The exit code is zero if there is none, and there is none if a workspace
loads every file. -/
theorem lint_spec
    (workspace : Workspace)
    (files : Files)
    (notes : Bool)
    (paths : List String) :
    ∃ (told : List String) (errors warnings : Nat),
      (lint workspace.compiler files notes paths).output =
        lines (told ++ [s!"Summary: {paths.length} files, {errors} errors, {warnings} warnings"]) ∧
      ((lint workspace.compiler files notes paths).code = 0 ↔ errors = 0) ∧
      (errors = 0 ↔ ∀ path ∈ paths, ∃ loaded, workspace.load files path = .ok loaded) := by
  let results := paths.map fun path => (path, inspect workspace.compiler files path)
  let told := ["", "=== Dialogue Lint Report ===", ""] ++
    results.flatMap (fun entry => entry.1 :: report notes entry.2) ++ [""]
  refine ⟨told, total (fun entry => errorCount entry.2) results, total (fun entry => warningCount entry.2) results,
    ?_, ?_, ?_⟩
  · exact congrArg lines (List.append_assoc _ [""] _).symm
  · exact ite_eq_left_iff.trans (by simp [results])
  · rw [total_eq_zero_iff, List.forall_mem_map]
    exact forall₂_congr fun path _ => errorCount_inspect_eq_zero_iff_exists_load

/-- If the target is there, and is no word that asks for help, and the compiler can be made, the exit code is zero exactly if
a workspace with the same compiler loads every file that is checked.  Exactly then the report ends with a count of no
errors. -/
theorem run_agrees_with_load
    {words : List String}
    {options : Options}
    (noHelp : asksForHelp target = false)
    (understood : Linter.options {} words = .ok options)
    (made : compilerFor files options.settings = .ok compiler)
    (isThere : files.isFile target = true ∨ files.isDirectory target = true)
    (sameCompiler : workspace.compiler = compiler) :
    ∃ (told : List String) (count errors warnings : Nat),
      (run files (target :: words)).output =
        lines (told ++ [s!"Summary: {count} files, {errors} errors, {warnings} warnings"]) ∧
      ((run files (target :: words)).code = 0 ↔
        ∀ path, Lints files target path → ∃ loaded, workspace.load files path = .ok loaded) ∧
      (errors = 0 ↔
        ∀ path, Lints files target path → ∃ loaded, workspace.load files path = .ok loaded) := by
  obtain ⟨paths, found, checked⟩ := exists_targets?_eq_some isThere
  have runs : run files (target :: words) = lint workspace.compiler files options.notes paths := by
    simp only [run, noHelp, understood, made, found, sameCompiler, Bool.false_eq_true, if_false]
  obtain ⟨told, errors, warnings, reported, code, loads⟩ := lint_spec workspace files options.notes paths
  simp only [checked] at loads
  rw [runs]
  exact ⟨told, paths.length, errors, warnings, reported, code.trans loads, loads⟩

/-- An empty script, and a document that is no text in a directory of its own. -/
def oldTalks : Files where
  contents := .ofList [("talks/hall.dlg", ByteArray.empty), ("talks/old/attic.json", ⟨#[255]⟩)]
  directories := .ofList ["talks", "talks/old"]

/-- The script alone passes.  The directory does not, since there is the document below it, which cannot be loaded. -/
theorem run_oldTalks :
    (run oldTalks ["talks/hall.dlg"]).code = 0 ∧ (run oldTalks ["talks"]).code ≠ 0 := by
  have understood : options {} [] = .ok {} := rfl
  have made : compilerFor oldTalks ({} : Options).settings = .ok {} := rfl
  have isScript : oldTalks.isFile "talks/hall.dlg" = true := by rfl
  have isOuter : oldTalks.isDirectory "talks" = true := by rfl
  have same : ({} : Workspace).compiler = {} := rfl
  constructor
  · have noHelp : asksForHelp "talks/hall.dlg" = false := by decide
    obtain ⟨_, _, _, _, -, agrees, -⟩ := run_agrees_with_load noHelp understood made (.inl isScript) same
    refine agrees.mpr fun path lints => ?_
    cases lints with
    | below noFile => cases isScript.symm.trans noFile
    | target =>
        have read : oldTalks.read "talks/hall.dlg" = .ok "" := by rfl
        have built : treeIn {} oldTalks "talks/hall.dlg" = .ok Tree.empty :=
          treeIn_eq_ok_iff.mpr ⟨"", read, by cbv⟩
        exact exists_load_iff.mpr ⟨Tree.empty, built, Integrity.wellFormed_empty {}⟩
  · have noHelp : asksForHelp "talks" = false := by decide
    obtain ⟨_, _, _, _, -, agrees, -⟩ := run_agrees_with_load noHelp understood made (.inr isOuter) same
    have isInner : oldTalks.isDirectory "talks/old" = true := by rfl
    have inDirectory : oldTalks.FileBelow "talks/old" "talks/old/attic.json" := by
      have joined : Path.join "talks/old" "attic.json" = "talks/old/attic.json" := by cbv
      rw [← joined]
      exact .child isInner (by decide) (by rw [joined]; rfl) (by rw [joined]; rfl)
    have below : oldTalks.FileBelow "talks" "talks/old/attic.json" := by
      have joined : Path.join "talks" "old" = "talks/old" := by cbv
      rw [← joined] at isInner inDirectory
      exact .within isOuter (by decide) isInner inDirectory
    have extension : Path.extension? "talks/old/attic.json" = some "json" := by rfl
    have unread : oldTalks.read "talks/old/attic.json" = .error .notText := by rfl
    intro passes
    obtain ⟨tree, gives, -⟩ :=
      exists_load_iff.mp (agrees.mp passes _ (.below (by rfl) isOuter below extension (by decide)))
    obtain ⟨text, read, -⟩ := treeIn_eq_ok_iff.mp gives
    cases unread.symm.trans read

end Linter
end Tool
end Parley
