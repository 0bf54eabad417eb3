import Parley.Proofs.Files.Paths

/-!
# Files below a directory

The listing of a directory goes down as many levels as there are directories, and one more.  Every level has a directory
of its own, so this is deep enough: the listing holds just the files that lie in the directory, or in one below it.
-/

namespace Parley

/-- The text of a location is that of the one before it, a slash unless it is the root, and the last name. -/
theorem Location.toList_key_concat
    (location : Location)
    (name : String) :
    (key (location ++ [name])).toList =
      (if location.isEmpty then [] else (location.key ++ "/").toList) ++ name.toList := by
  cases location with
  | nil => exact congrArg String.toList (key_singleton name)
  | cons first rest => rw [key_concat (List.cons_ne_nil first rest), String.toList_append]; rfl

theorem Location.length_key_lt_concat
    {name : String}
    (location : Location)
    (named : Path.isName name.toList = true) :
    location.key.length < (key (location ++ [name])).length := by
  have nonempty := List.length_pos_of_ne_nil (Path.isName_iff.mp named).1
  rw [← String.length_toList, ← String.length_toList, toList_key_concat]
  cases location with
  | nil => simpa [key] using nonempty
  | cons first rest => simp

namespace Files

variable {files : Files} {location : Location} {directory name path : String}

/-! ## One directory -/

/-- What is directly in a directory has a name, and is a file or a directory under this name. -/
theorem mem_childNames_iff :
    name ∈ files.childNames location ↔
      Path.isName name.toList = true ∧
        (files.contents.contains (Location.key (location ++ [name])) = true ∨
          files.directories.contains (Location.key (location ++ [name])) = true) := by
  have front := location.toList_key_concat name
  rw [Table.contains_iff, Table.contains_iff, ← List.mem_append, childNames, List.mem_filterMap]
  generalize (if location.isEmpty then [] else (location.key ++ "/").toList) = within at front ⊢
  constructor
  · rintro ⟨key, member, found⟩
    simp only [Option.ite_none_right_eq_some, Option.some.injEq, List.isPrefixOf_iff_prefix] at found
    obtain ⟨⟨behind, split⟩, isName, rfl⟩ := found
    rw [← split, List.drop_left] at isName front ⊢
    have same : Location.key (location ++ [String.ofList behind]) = key := by
      apply String.toList_injective
      rw [front, String.toList_ofList, split]
    rw [String.toList_ofList, same]
    exact ⟨isName, member⟩
  · rintro ⟨isName, member⟩
    refine ⟨_, member, ?_⟩
    simp [front, isName]

section Join

variable
  (leads : files.resolve? directory = some location)
  (isDirectory : files.isDirectoryAt location = true)
  (named : Path.isName name.toList = true)

include leads isDirectory named

theorem isDirectory_join :
    files.isDirectory (Path.join directory name) = files.isDirectoryAt (location ++ [name]) := by
  rw [Files.isDirectory, resolve?_join leads isDirectory named, Option.any_some]

theorem isFile_join :
    files.isFile (Path.join directory name) = files.contents.contains (Location.key (location ++ [name])) := by
  rw [isFile, bytes?, resolve?_join leads isDirectory named]
  rfl

end Join

theorem isDirectoryAt_concat
    (location : Location)
    (name : String) :
    files.isDirectoryAt (location ++ [name]) = files.directories.contains (Location.key (location ++ [name])) := by
  simp [isDirectoryAt]

theorem isDirectory_iff :
    files.isDirectory directory = true ↔
      ∃ location, files.resolve? directory = some location ∧ files.isDirectoryAt location = true := by
  rw [Files.isDirectory, Option.any_eq_true]

/-! ## Directories in directories -/

/-- A file is below a directory if it is in the directory, or below a directory in it. -/
inductive FileBelow (files : Files) : (directory path : String) → Prop where
  | child {directory name : String} :
      files.isDirectory directory = true →
      Path.isName name.toList = true →
      files.isFile (Path.join directory name) = true →
      files.isDirectory (Path.join directory name) = false →
      FileBelow files directory (Path.join directory name)
  | within {directory name path : String} :
      files.isDirectory directory = true →
      Path.isName name.toList = true →
      files.isDirectory (Path.join directory name) = true →
      FileBelow files (Path.join directory name) path →
      FileBelow files directory path

/-- The listing of a directory consists of its files, and of the listings of its directories. -/
theorem mem_filesWithin_succ_iff
    (depth : Nat)
    (isDirectory : files.isDirectory directory = true) :
    path ∈ files.filesWithin (depth + 1) directory ↔
      ∃ name, Path.isName name.toList = true ∧
        ((files.isDirectory (Path.join directory name) = true ∧
            path ∈ files.filesWithin depth (Path.join directory name)) ∨
          (files.isDirectory (Path.join directory name) = false ∧ files.isFile (Path.join directory name) = true ∧
            path = Path.join directory name)) := by
  obtain ⟨location, leads, isDirectoryAt⟩ := isDirectory_iff.mp isDirectory
  rw [filesWithin, leads]
  simp only [List.mem_flatMap, mem_childNames_iff, and_assoc]
  refine exists_congr fun name => and_congr_right fun named => ?_
  rw [isDirectory_join leads isDirectoryAt named, isFile_join leads isDirectoryAt named, ← isDirectoryAt_concat]
  cases files.isDirectoryAt (location ++ [name]) <;> simp

theorem fileBelow_of_mem_filesWithin
    {depth : Nat}
    (isDirectory : files.isDirectory directory = true)
    (member : path ∈ files.filesWithin depth directory) :
    files.FileBelow directory path := by
  induction depth generalizing directory with
  | zero => cases member
  | succ depth inductionHypothesis =>
      obtain ⟨name, named, ⟨isInner, below⟩ | ⟨isNone, isFile, rfl⟩⟩ :=
        (mem_filesWithin_succ_iff depth isDirectory).mp member
      · exact .within isDirectory named isInner (inductionHypothesis isInner below)
      · exact .child isDirectory named isFile isNone

/-! ## Deep enough -/

/-- The directories that are kept under a longer text than a location. -/
def longerKeys
    (files : Files)
    (location : Location) : List String :=
  files.directories.keys.filter fun key => location.key.length < key.length

theorem length_longerKeys_concat_lt
    (named : Path.isName name.toList = true)
    (isDirectory : files.isDirectoryAt (location ++ [name]) = true) :
    (files.longerKeys (location ++ [name])).length < (files.longerKeys location).length := by
  have longer := location.length_key_lt_concat named
  have narrowed : files.longerKeys (location ++ [name]) =
      (files.longerKeys location).filter fun key => (Location.key (location ++ [name])).length < key.length := by
    rw [longerKeys, longerKeys, List.filter_filter]
    refine List.filter_congr fun key _ => ?_
    rw [Bool.eq_iff_iff, Bool.and_eq_true, decide_eq_true_eq, decide_eq_true_eq]
    exact ⟨fun above => ⟨above, Nat.lt_trans longer above⟩, And.left⟩
  rw [narrowed, List.length_filter_lt_length_iff_exists]
  rw [isDirectoryAt_concat, Table.contains_iff] at isDirectory
  exact ⟨_, List.mem_filter.mpr ⟨isDirectory, decide_eq_true longer⟩, by simp⟩

theorem mem_filesWithin_of_fileBelow
    {depth : Nat}
    (below : files.FileBelow directory path)
    (leads : files.resolve? directory = some location)
    (deep : (files.longerKeys location).length < depth) :
    path ∈ files.filesWithin depth directory := by
  induction below generalizing location depth with
  | @child directory name isDirectory named isFile isNone =>
      cases depth with
      | zero => cases deep
      | succ depth =>
          exact (mem_filesWithin_succ_iff depth isDirectory).mpr ⟨name, named, .inr ⟨isNone, isFile, rfl⟩⟩
  | @within directory name path isDirectory named isInner _ inductionHypothesis =>
      cases depth with
      | zero => cases deep
      | succ depth =>
          obtain ⟨_, alsoLeads, isDirectoryAt⟩ := isDirectory_iff.mp isDirectory
          obtain rfl := Option.some.inj (leads.symm.trans alsoLeads)
          have innerAt := (isDirectory_join leads isDirectoryAt named).symm.trans isInner
          have shallower := length_longerKeys_concat_lt named innerAt
          have listed := inductionHypothesis (resolve?_join leads isDirectoryAt named)
            (Nat.lt_of_lt_of_le shallower (Nat.le_of_lt_succ deep))
          exact (mem_filesWithin_succ_iff depth isDirectory).mpr ⟨name, named, .inl ⟨isInner, listed⟩⟩

/-- The listing of a directory holds all files below it, and nothing else. -/
theorem mem_filesBelow_iff
    (isDirectory : files.isDirectory directory = true) :
    path ∈ files.filesBelow directory ↔ files.FileBelow directory path := by
  obtain ⟨location, leads, -⟩ := isDirectory_iff.mp isDirectory
  have deep : (files.longerKeys location).length < files.directories.size + 1 := by
    rw [Nat.lt_succ_iff, ← Table.length_keys]
    exact List.length_filter_le ..
  exact ⟨fileBelow_of_mem_filesWithin isDirectory, fun below => mem_filesWithin_of_fileBelow below leads deep⟩

end Files
end Parley
