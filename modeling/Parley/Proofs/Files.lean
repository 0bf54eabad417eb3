import Parley.Proofs.Files.Paths
import Parley.Proofs.Stages
import Parley.Proofs.Tree.Store

/-!
# Written files

What is written to a file is read back from it.  Writing changes no directory, so every path leads where it led before, and
no other file than the written one is touched.
-/

namespace Parley
namespace Files

variable {files written : Files} {path text : String}

/-- Where a path leads depends on the directories only. -/
theorem resolve?_congr
    (same : written.directories = files.directories)
    (path : String) :
    written.resolve? path = files.resolve? path := by
  have step : written.step = files.step := by
    funext location component
    rw [step, isDirectoryAt, same, step, isDirectoryAt]
  rw [resolve?, step, resolve?]

theorem isDirectory_congr
    (same : written.directories = files.directories)
    (path : String) :
    written.isDirectory path = files.isDirectory path := by
  have isDirectoryAt : written.isDirectoryAt = files.isDirectoryAt := by
    funext location
    rw [Files.isDirectoryAt, same, Files.isDirectoryAt]
  rw [isDirectory, resolve?_congr same, isDirectoryAt, isDirectory]

/-- A text can be written to a path that leads somewhere but to no directory, and nothing else changes. -/
theorem write_eq_ok_iff :
    files.write path text = .ok written ↔
      files.isDirectory path = false ∧ ∃ location, files.resolve? path = some location ∧
        written = { files with contents := files.contents.insert location.key text.toUTF8 } := by
  unfold write
  cases files.isDirectory path with
  | true => exact iff_of_false nofun nofun
  | false =>
      cases files.resolve? path with
      | none => exact iff_of_false nofun fun ⟨_, _, found, _⟩ => nomatch found
      | some location =>
          constructor
          · rintro ⟨⟩
            exact ⟨rfl, location, rfl, rfl⟩
          · rintro ⟨-, _, ⟨⟩, rfl⟩
            rfl

/-- What is written to a file is what the file is read as afterwards. -/
theorem read_of_write
    (done : files.write path text = .ok written) :
    written.read path = .ok text := by
  obtain ⟨isFile, location, leads, same⟩ := write_eq_ok_iff.mp done
  have directories : written.directories = files.directories := by rw [same]
  have held : written.bytes? path = some text.toUTF8 := by
    rw [bytes?, resolve?_congr directories, leads, same]
    exact (Table.get?_insert ..).trans (if_pos rfl)
  have decoded : String.fromUTF8? text.toUTF8 = some text := dif_pos text.isValidUTF8
  rw [read, isDirectory_congr directories, isFile, held]
  simp only [Bool.false_eq_true, if_false, decoded]

/-- Nothing else has changed than what a path leads to. -/
structure AlikeBut
    (files : Files)
    (path : String)
    (changed : Files) : Prop where
  directories : changed.directories = files.directories
  bytes : ∀ {other}, files.resolve? other ≠ files.resolve? path → changed.bytes? other = files.bytes? other

theorem alikeBut_self
    (files : Files)
    (path : String) :
    files.AlikeBut path files := ⟨rfl, fun _ => rfl⟩

theorem alikeBut_of_write
    (done : files.write path text = .ok written) :
    files.AlikeBut path written := by
  obtain ⟨-, location, leads, same⟩ := write_eq_ok_iff.mp done
  have directories : written.directories = files.directories := by rw [same]
  refine ⟨directories, fun {other} elsewhere => ?_⟩
  rw [bytes?, bytes?, resolve?_congr directories]
  cases otherLeads : files.resolve? other with
  | none => rfl
  | some otherLocation =>
      have apart : otherLocation.key ≠ location.key := by
        intro sameKey
        have equal := (named_of_resolve? otherLeads).eq_of_key_eq (named_of_resolve? leads) sameKey
        exact elsewhere (by rw [otherLeads, leads, equal])
      rw [same]
      exact (Table.get?_insert ..).trans (if_neg apart)

end Files
end Parley
