import Mathlib
import Parley.Proofs.Document.RoundTrip
import Parley.Proofs.Files
import Parley.Proofs.Opacity
import Parley.Proofs.Workspace.Calls

/-!
# Saving and loading

A saved tree is loaded again if the format has room for its contexts, with what the format keeps of its floating-point
numbers.  This is the tree that was saved exactly if the format keeps each of them: RON keeps all of them but for the
different words that stand for no number, and JSON keeps those finite ones that it does not round to another one.
-/

namespace Parley

open Integrity (ValidTree)

variable {format : Format}

/-! ## Numbers that are kept -/

/-- Whether a format keeps a floating-point number; the words that stand for no number are all the same. -/
def Format.Keeps (format : Format) (number : Binary64) : Prop :=
  match format with
  | .json => number.isNaN = false ∧ number.isInfinite = false ∧ Json.Numeral.reread number = number
  | .ron => True

/-- The tree with one word for no number in its contexts. -/
def Tree.settled (tree : Tree) : Tree := tree.mapContexts (Context.recast fun number => some number.settled)

theorem Json.kept_settled_iff
    {number : Binary64} :
    (kept number).map Binary64.settled = some number.settled ↔ Format.json.Keeps number := by
  rw [kept, Format.Keeps]
  split_ifs with infinite
  · refine iff_of_false nofun fun keeps => ?_
    rw [keeps.1, keeps.2.1] at infinite
    cases infinite
  · have isNumber : number.isNaN = false ∧ number.isInfinite = false := by simpa using infinite
    have same : number.settled = number := if_neg (by rw [isNumber.1]; exact Bool.false_ne_true)
    rw [Option.map_some, Option.some.injEq, same]
    constructor
    · intro settled
      refine ⟨isNumber.1, isNumber.2, ?_⟩
      rw [Binary64.settled] at settled
      split_ifs at settled with none
      · rw [← settled] at isNumber
        exact absurd isNumber.1 (by decide)
      · exact settled
    · intro keeps
      rw [keeps.2.2, same]

theorem Format.kept_settled_iff
    {number : Binary64} :
    (format.kept number).map Binary64.settled = some number.settled ↔ format.Keeps number := by
  cases format with
  | json => exact Json.kept_settled_iff
  | ron => exact iff_of_true (congrArg some number.settled_settled) trivial

/-- What a format gives back of a tree is the tree again exactly if it keeps all numbers in it. -/
theorem Tree.settled_recast_kept_iff
    {tree : Tree} :
    (tree.mapContexts (Context.recast format.kept)).settled = tree.settled ↔
      ∀ entity ∈ tree.entities, entity.context.EveryFloat format.Keeps := by
  rw [settled, settled, mapContexts_mapContexts, mapContexts_eq_mapContexts_iff]
  refine forall₂_congr fun entity _ => ?_
  rw [Function.comp_apply, Context.recast_recast, Context.recast_eq_recast_iff]
  have keeps : (fun number => Value.changeTwice format.kept (fun number => some number.settled) number =
      some number.settled) = format.Keeps := by
    funext number
    have twice : Value.changeTwice format.kept (fun number => some number.settled) number =
        (format.kept number).map Binary64.settled := Option.map_eq_bind.symm
    rw [twice, Format.kept_settled_iff]
  rw [keeps]

/-! ## Trees that can be saved -/

namespace Workspace

variable {workspace loader loaded : Workspace} {files written : Files} {path : String}

theorem named_savedTree
    (workspace : Workspace) :
    workspace.savedTree.Named := by
  rw [savedTree]
  cases workspace.current with
  | none => exact Tree.named_empty
  | some valid => exact valid.named

theorem exists_validate_savedTree
    (sound : workspace.Sound) :
    ∃ valid, workspace.compiler.validate workspace.savedTree = .ok valid := by
  rw [savedTree]
  cases held : workspace.current with
  | none => exact Integrity.exists_validate_iff.mpr (Integrity.wellFormed_empty workspace.compiler.rules)
  | some valid => exact ⟨valid, sound valid held⟩

/-- What was saved is loaded with what the format keeps of its numbers, exactly if there is room for its contexts. -/
theorem loadDocument_of_save
    (known : Format.ofPath? path = some format)
    (saved : workspace.save files path = .ok written) :
    loader.loadDocument written path = .ok loaded ↔
      (∀ entity ∈ workspace.savedTree.entities, format.HasRoom entity.context) ∧
        ∃ valid, loader.compiler.validate (workspace.savedTree.mapContexts (Context.recast format.kept)) = .ok valid ∧
          loaded = loader.hold valid := by
  obtain ⟨_, text, found, encoded, wrote⟩ := save_eq_ok_iff.mp saved
  obtain rfl := Option.some.inj (known.symm.trans found)
  have read := Files.read_of_write wrote
  have decoded {tree : Tree} : Tree.decode format text = .ok tree ↔
      (∀ entity ∈ workspace.savedTree.entities, format.HasRoom entity.context) ∧
        tree = workspace.savedTree.mapContexts (Context.recast format.kept) :=
    workspace.named_savedTree.decode_eq_ok_iff encoded
  rw [loadDocument_eq_ok_iff]
  constructor
  · rintro ⟨_, _, tree, valid, isFormat, isText, gives, certified, same⟩
    obtain rfl := Option.some.inj (known.symm.trans isFormat)
    obtain rfl := Except.ok.inj (read.symm.trans isText)
    obtain ⟨room, rfl⟩ := decoded.mp (mapError_eq_ok_iff.mp gives)
    exact ⟨room, valid, certified, same⟩
  · rintro ⟨room, valid, certified, same⟩
    exact ⟨format, text, _, valid, known, read, mapError_eq_ok_iff.mpr (decoded.mpr ⟨room, rfl⟩), certified, same⟩

/-- JSON has words for every tree, so it is saved wherever a file can be. -/
theorem exists_save_json
    (known : Format.ofPath? path = some .json)
    (noDirectory : files.isDirectory path = false)
    (leads : (files.resolve? path).isSome = true) :
    ∃ written, workspace.save files path = .ok written := by
  obtain ⟨location, found⟩ := Option.isSome_iff_exists.mp leads
  have writes (text : String) : ∃ written, files.write path text = .ok written :=
    ⟨_, Files.write_eq_ok_iff.mpr ⟨noDirectory, location, found, rfl⟩⟩
  obtain ⟨written, wrote⟩ := writes (Document.ofTree workspace.savedTree).toJson.pretty
  exact ⟨written, save_eq_ok_iff.mpr ⟨.json, _, known, rfl, wrote⟩⟩

end Workspace

/-- Whatever a workspace was used for, a tree that it saved can be loaded again exactly if the format has room for its
contexts.  What is loaded then is the tree with what the format keeps of its numbers.  So the tree that was saved is loaded
exactly if the format has room for its contexts and keeps all floating-point numbers in them. -/
theorem Desk.loads_saved_iff
    (compiler : Compiler)
    (files : Files)
    (calls : List Workspace.Call)
    {path : String}
    {format : Format}
    {written : Files}
    (known : Format.ofPath? path = some format)
    (saved : ((start compiler files).run calls).workspace.save ((start compiler files).run calls).files path = .ok written)
    (loader : Workspace)
    (sameCompiler : loader.compiler = compiler) :
    let tree := ((start compiler files).run calls).workspace.savedTree
    ((∃ loaded, loader.loadDocument written path = .ok loaded) ↔
        ∀ entity ∈ tree.entities, format.HasRoom entity.context) ∧
      (∀ loaded, loader.loadDocument written path = .ok loaded →
        ∃ valid, loaded.current = some valid ∧ valid.tree = tree.mapContexts (Context.recast format.kept)) ∧
      ((∃ loaded valid, loader.loadDocument written path = .ok loaded ∧ loaded.current = some valid ∧
          valid.tree.settled = tree.settled) ↔
        ∀ entity ∈ tree.entities, format.HasRoom entity.context ∧ entity.context.EveryFloat format.Keeps) := by
  obtain ⟨keptCompiler, sound⟩ := sound_of_run calls (sound_start compiler files)
  generalize ((start compiler files).run calls).workspace = workspace at *
  have compilers : loader.compiler = workspace.compiler := sameCompiler.trans keptCompiler.symm
  have loads {loaded : Workspace} : loader.loadDocument written path = .ok loaded ↔
      (∀ entity ∈ workspace.savedTree.entities, format.HasRoom entity.context) ∧
        ∃ valid, loader.compiler.validate (workspace.savedTree.mapContexts (Context.recast format.kept)) = .ok valid ∧
          loaded = loader.hold valid := Workspace.loadDocument_of_save known saved
  have succeeds : (∃ loaded, loader.loadDocument written path = .ok loaded) ↔
      ∀ entity ∈ workspace.savedTree.entities, format.HasRoom entity.context := by
    constructor
    · rintro ⟨loaded, given⟩
      exact (loads.mp given).1
    · intro room
      obtain ⟨valid, accepted⟩ := Workspace.exists_validate_savedTree sound
      have alike := (Tree.bare_mapContexts (Context.recast format.kept) workspace.savedTree).symm
      obtain ⟨reloaded, alsoAccepted, -⟩ := Integrity.exists_validate_of_bare_eq alike accepted
      refine ⟨loader.hold reloaded, loads.mpr ⟨room, reloaded, ?_, rfl⟩⟩
      rw [compilers]
      exact alsoAccepted
  have gives (loaded : Workspace) (given : loader.loadDocument written path = .ok loaded) : ∃ valid,
      loaded.current = some valid ∧ valid.tree = workspace.savedTree.mapContexts (Context.recast format.kept) := by
    obtain ⟨-, valid, certified, rfl⟩ := loads.mp given
    exact ⟨valid, rfl, (Integrity.validate_eq_ok_iff.mp certified).2.1⟩
  refine ⟨succeeds, gives, ?_⟩
  rw [forall₂_and, ← succeeds, ← Tree.settled_recast_kept_iff]
  constructor
  · rintro ⟨loaded, valid, given, held, same⟩
    obtain ⟨_, alsoHeld, recast⟩ := gives loaded given
    obtain rfl := Option.some.inj (held.symm.trans alsoHeld)
    exact ⟨⟨loaded, given⟩, recast ▸ same⟩
  · rintro ⟨⟨loaded, given⟩, same⟩
    obtain ⟨valid, held, recast⟩ := gives loaded given
    exact ⟨loaded, valid, given, held, recast ▸ same⟩

/-! ## A number that is not kept -/

/-- A talk with a number in a note. -/
def notedTalk (number : Binary64) : Tree where
  scenes := .ofList [("s", { id := "s", start := "d", context := .ofFields [("f", .float number)] })]
  dialogues := .ofList [("d", { id := "d", text := "t" })]

theorem isOk_check_notedTalk
    (number : Binary64) :
    (Integrity.check {} (notedTalk number)).isOk = true := by
  cbv

theorem contexts_notedTalk
    (number : Binary64) :
    (notedTalk number).entities.map (fun entity => entity.context.fields) = [[("f", .float number)], []] := by
  cbv

/-- A workspace that holds the talk with a note that is no number saves it in JSON.  What it wrote can be loaded, but does
not give the talk again. -/
theorem Desk.loads_saved_notedTalk :
    ∃ written,
      ((start {} {}).run [.replace (notedTalk .notANumber)]).workspace.save
          ((start {} {}).run [.replace (notedTalk .notANumber)]).files "n.json" = .ok written ∧
      (∃ loaded, Workspace.loadDocument {} written "n.json" = .ok loaded) ∧
        ¬∃ loaded valid, Workspace.loadDocument {} written "n.json" = .ok loaded ∧ loaded.current = some valid ∧
          valid.tree.settled = (notedTalk .notANumber).settled := by
  generalize isNone : Binary64.notANumber = number
  have ok := isOk_check_notedTalk number
  let valid : ValidTree := ⟨notedTalk number, Integrity.check {} (notedTalk number), {}, rfl, ok⟩
  have certified : ({} : Compiler).validate (notedTalk number) = .ok valid := dif_pos ok
  have replaced : (start {} {}).run [.replace (notedTalk number)] = ⟨Workspace.hold {} valid, {}⟩ :=
    perform_of_gives (.replacement certified)
  have held : ((start {} {}).run [.replace (notedTalk number)]).workspace.savedTree = notedTalk number := by
    rw [replaced]
    rfl
  have known : Format.ofPath? "n.json" = some .json := by cbv
  have saves : ∃ written, ((start {} {}).run [.replace (notedTalk number)]).workspace.save
      ((start {} {}).run [.replace (notedTalk number)]).files "n.json" = .ok written := by
    rw [replaced]
    exact Workspace.exists_save_json known (by cbv) (by cbv)
  obtain ⟨written, saved⟩ := saves
  have loads := loads_saved_iff {} {} [.replace (notedTalk number)] known saved {} rfl
  rw [held] at loads
  obtain ⟨succeeds, -, lossless⟩ := loads
  have contexts := contexts_notedTalk number
  refine ⟨written, saved, succeeds.mpr ?_, fun equal => ?_⟩
  · have shallow : ∀ fields ∈ (notedTalk number).entities.map (fun entity => entity.context.fields),
        Value.fieldsDepth fields + 1 ≤ 60 := by
      rw [contexts]
      simp [Value.fieldsDepth, Value.depth]
    exact fun entity member => Format.hasRoom_of_depth_le .json (List.forall_mem_map.mp shallow entity member)
  · have keeps : ∀ fields ∈ (notedTalk number).entities.map (fun entity => entity.context.fields),
        Value.EveryFloatFields Format.json.Keeps fields :=
      List.forall_mem_map.mpr fun entity member => (lossless.mp equal entity member).2
    rw [contexts] at keeps
    have isNumber := (keeps _ List.mem_cons_self).1.1
    rw [← isNone] at isNumber
    cases isNumber

end Parley
