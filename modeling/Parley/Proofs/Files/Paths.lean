import Mathlib.Data.List.Basic
import Parley.Files

/-!
# Paths and locations

A path is resolved component by component, and what it leads to is told by names.  A name behind the path of a directory
leads one name further, and no two locations are kept under one text.
-/

namespace Parley

/-! ## Components -/

namespace Path

variable {component : List Char} {directory name path : String}

theorem isName_iff :
    isName component = true ↔ component ≠ [] ∧ component ≠ ['.'] ∧ component ≠ ['.', '.'] ∧ '/' ∉ component := by
  simp [isName, isStay, and_assoc]

/-- What a list is split into does not hold what it is split at. -/
theorem forall_mem_splitOnP
    {α : Type}
    (isMark : α → Bool)
    (elements : List α) :
    ∀ part ∈ elements.splitOnP isMark, ∀ element ∈ part, isMark element = false := by
  induction elements with
  | nil => simp
  | cons first rest inductionHypothesis =>
      rw [List.splitOnP_cons_eq_if_modifyHead]
      split_ifs with mark
      · simpa using inductionHypothesis
      · obtain ⟨part, parts, split⟩ := List.exists_cons_of_ne_nil (List.splitOnP_ne_nil isMark rest)
        rw [split, List.forall_mem_cons] at inductionHypothesis
        rw [split, List.modifyHead_cons, List.forall_mem_cons, List.forall_mem_cons]
        exact ⟨⟨eq_false_of_ne_true mark, inductionHypothesis.1⟩, inductionHypothesis.2⟩

theorem slash_not_mem_of_mem_components
    (member : component ∈ components path) :
    '/' ∉ component := by
  intro slash
  have noMark := forall_mem_splitOnP (· == '/') path.toList component member '/' slash
  simp at noMark

theorem components_slash
    (front behind : String) :
    components (front ++ "/" ++ behind) = components front ++ components behind := by
  have split : (front ++ "/" ++ behind).toList = front.toList ++ '/' :: behind.toList := by simp
  rw [components, split, List.splitOn, List.splitOnP_append_cons _ _ rfl]
  rfl

theorem components_of_isName
    (named : isName name.toList = true) :
    components name = [name.toList] :=
  List.splitOn_eq_singleton (isName_iff.mp named).2.2.2

/-- A path that ends in a slash is one in front of the slash, and joining adds no second slash. -/
theorem join_cases
    (directory name : String) :
    (∃ front, directory = front ++ "/" ∧ join directory name = front ++ "/" ++ name) ∨
      join directory name = directory ++ "/" ++ name := by
  rw [join]
  split_ifs with ends
  · rw [String.endsWith_eq_endsWith_toSlice, String.Slice.endsWith_string_iff, String.copy_toSlice] at ends
    obtain ⟨front, split⟩ := ends
    have same : directory = String.ofList front ++ "/" := by
      apply String.toList_injective
      simp [← split]
    exact .inl ⟨String.ofList front, same, by rw [← same]⟩
  · exact .inr rfl

end Path

/-! ## Locations -/

namespace Location

variable {location left right : Location} {name : String}

theorem key_concat
    (inside : location ≠ []) :
    key (location ++ [name]) = key location ++ "/" ++ name := by
  rw [key, String.intercalate_append_of_ne_nil inside (List.cons_ne_nil name []), String.intercalate_singleton, key]

theorem key_singleton
    (name : String) :
    key [name] = name :=
  String.intercalate_singleton

/-- A location is the way of names to something. -/
def Named (location : Location) : Prop := ∀ name ∈ location, Path.isName name.toList = true

theorem Named.eq_nil_of_key
    (named : left.Named)
    (empty : key left = "") :
    left = [] := by
  cases left with
  | nil => rfl
  | cons first rest =>
      have nonempty := (Path.isName_iff.mp (named first List.mem_cons_self)).1
      obtain ⟨char, chars, split⟩ := List.exists_cons_of_ne_nil nonempty
      have none := congrArg String.toList empty
      rw [key, String.toList_intercalate, List.map_cons, split, List.intercalate_cons_cons_left] at none
      cases none

/-- Different locations are kept under different texts. -/
theorem Named.eq_of_key_eq
    (leftNamed : left.Named)
    (rightNamed : right.Named)
    (same : key left = key right) :
    left = right := by
  by_cases empty : left = []
  · subst empty
    exact (rightNamed.eq_nil_of_key same.symm).symm
  · have alsoInside : right ≠ [] := by
      rintro rfl
      exact empty (leftNamed.eq_nil_of_key same)
    have split {location : Location} (named : location.Named) (inside : location ≠ []) :
        (key location).toList.splitOn '/' = location.map String.toList := by
      rw [key, String.toList_intercalate]
      refine List.splitOn_intercalate '/' ?_ (by simpa using inside)
      intro part member
      obtain ⟨name, isIn, rfl⟩ := List.mem_map.mp member
      exact (Path.isName_iff.mp (named name isIn)).2.2.2
    have names := (split leftNamed empty).symm.trans (same ▸ split rightNamed alsoInside)
    exact List.map_injective_iff.mpr (fun _ _ => String.toList_injective) names

end Location

/-! ## Resolving -/

namespace Files

variable {files : Files} {location target : Location} {component : List Char} {directory name path : String}

theorem step_of_isName
    (isDirectory : files.isDirectoryAt location = true)
    (named : Path.isName name.toList = true) :
    files.step location name.toList = some (location ++ [name]) := by
  obtain ⟨notEmpty, notHere, notUp, -⟩ := Path.isName_iff.mp named
  simp [step, isDirectory, Path.isStay, notEmpty, notHere, notUp]

/-- To stay takes a directory. -/
theorem step_nil_eq_some_iff :
    files.step location [] = some target ↔ files.isDirectoryAt location = true ∧ target = location := by
  have stays : Path.isStay [] = true := rfl
  rw [step, stays]
  cases files.isDirectoryAt location with
  | false => simp
  | true => simp [eq_comm]

theorem named_of_step
    (named : location.Named)
    (inComponent : '/' ∉ component)
    (led : files.step location component = some target) :
    target.Named := by
  unfold step at led
  split_ifs at led with noDirectory stays up
  · cases led
    exact named
  · cases led
    exact fun name member => named name (List.dropLast_subset location member)
  · cases led
    intro name member
    rcases List.mem_append.mp member with before | new
    · exact named name before
    · obtain rfl := List.mem_singleton.mp new
      rw [Path.isName_iff, String.toList_ofList]
      simp_all [Path.isStay]

theorem named_of_foldlM
    {components : List (List Char)}
    (named : location.Named)
    (inComponents : ∀ component ∈ components, '/' ∉ component)
    (led : components.foldlM files.step location = some target) :
    target.Named := by
  induction components generalizing location with
  | nil =>
      cases led
      exact named
  | cons first rest inductionHypothesis =>
      obtain ⟨ofFirst, ofRest⟩ := List.forall_mem_cons.mp inComponents
      rw [List.foldlM_cons, Option.bind_eq_bind, Option.bind_eq_some_iff] at led
      obtain ⟨middle, firstStep, led⟩ := led
      exact inductionHypothesis (named_of_step named ofFirst firstStep) ofRest led

theorem resolve?_eq_some_iff :
    files.resolve? path = some location ↔ path ≠ "" ∧ (Path.components path).foldlM files.step [] = some location := by
  rw [resolve?, Ne, ← String.isEmpty_iff]
  cases path.isEmpty <;> simp

/-- What a path leads to is told by names. -/
theorem named_of_resolve?
    (leads : files.resolve? path = some location) :
    location.Named :=
  named_of_foldlM (List.forall_mem_nil _) (fun _ => Path.slash_not_mem_of_mem_components) (resolve?_eq_some_iff.mp leads).2

/-- A name behind the path of a directory leads to what has this name in the directory. -/
theorem resolve?_join
    (leads : files.resolve? directory = some location)
    (isDirectory : files.isDirectoryAt location = true)
    (named : Path.isName name.toList = true) :
    files.resolve? (Path.join directory name) = some (location ++ [name]) := by
  have further := step_of_isName isDirectory named
  obtain ⟨notEmpty, led⟩ := resolve?_eq_some_iff.mp leads
  obtain ⟨front, rfl, joined⟩ | joined := Path.join_cases directory name
  · have ended : Path.components (front ++ "/") = Path.components front ++ [[]] := by
      have behind : Path.components "" = [[]] := List.splitOn_nil '/'
      rw [← behind, ← Path.components_slash, String.append_empty]
    rw [ended, List.foldlM_append, Option.bind_eq_bind, Option.bind_eq_some_iff] at led
    obtain ⟨middle, led, stays⟩ := led
    obtain ⟨-, rfl⟩ := step_nil_eq_some_iff.mp (by simpa using stays)
    rw [joined, resolve?_eq_some_iff, Path.components_slash, Path.components_of_isName named, List.foldlM_append, led]
    exact ⟨by simp, by simpa using further⟩
  · rw [joined, resolve?_eq_some_iff, Path.components_slash, Path.components_of_isName named, List.foldlM_append, led]
    exact ⟨by simp, by simpa using further⟩

end Files
end Parley
