/-!
# Runs of one kind

A reader that goes on while elements are of some kind takes exactly a run of them, if the run is all of that kind and what
follows is not.
-/

namespace Parley
namespace Text

variable {α : Type} {p : α → Bool} {run rest : List α} {first : α}

/-- A list is empty or begins with an element that is not of some kind. -/
def StopsAt (p : α → Bool) (rest : List α) : Prop := ∀ first ∈ rest.head?, p first = false

theorem stopsAt_nil : StopsAt p [] := nofun

@[simp] theorem stopsAt_cons_iff : StopsAt p (first :: rest) ↔ p first = false := by
  simp [StopsAt]

theorem StopsAt.append
    (nonempty : run ≠ [])
    (stops : StopsAt p run) :
    StopsAt p (run ++ rest) := by
  cases run with
  | nil => exact absurd rfl nonempty
  | cons first further => exact stops

theorem StopsAt.takeWhile_eq
    (stops : StopsAt p rest) :
    rest.takeWhile p = [] := by
  cases rest with
  | nil => rfl
  | cons first further => rw [List.takeWhile_cons, stopsAt_cons_iff.mp stops, if_neg nofun]

theorem StopsAt.dropWhile_eq
    (stops : StopsAt p rest) :
    rest.dropWhile p = rest := by
  cases rest with
  | nil => rfl
  | cons first further => rw [List.dropWhile_cons, stopsAt_cons_iff.mp stops, if_neg nofun]

theorem stopsAt_dropWhile
    (p : α → Bool)
    (elements : List α) :
    StopsAt p (elements.dropWhile p) := by
  intro first there
  have stops := List.head?_dropWhile_not p elements
  rw [there] at stops
  simpa using stops

theorem takeWhile_run
    (all : ∀ element ∈ run, p element = true)
    (stops : StopsAt p rest) :
    (run ++ rest).takeWhile p = run := by
  rw [List.takeWhile_append_of_pos all, stops.takeWhile_eq, List.append_nil]

theorem dropWhile_run
    (all : ∀ element ∈ run, p element = true)
    (stops : StopsAt p rest) :
    (run ++ rest).dropWhile p = rest := by
  rw [List.dropWhile_append_of_pos all, stops.dropWhile_eq]

/-- Every list is a run of some kind in front of elements that do not go on with it. -/
theorem exists_run
    (p : α → Bool)
    (elements : List α) :
    ∃ run rest, elements = run ++ rest ∧ (∀ element ∈ run, p element = true) ∧ StopsAt p rest :=
  ⟨_, _, List.takeWhile_append_dropWhile.symm, List.all_eq_true.mp List.all_takeWhile, stopsAt_dropWhile p elements⟩

end Text
end Parley
