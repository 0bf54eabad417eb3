/-!
# Stages that may fail

What follows from the success of a computation that is made of stages: each of its stages succeeded.
-/

namespace Parley

variable {ε δ α β : Type}

theorem bind_eq_ok_iff
    {stage : Except ε α}
    {next : α → Except ε β}
    {result : β} :
    (stage >>= next) = .ok result ↔ ∃ middle, stage = .ok middle ∧ next middle = .ok result := by
  cases stage <;> simp [bind, Except.bind]

theorem bind_eq_error_iff
    {stage : Except ε α}
    {next : α → Except ε β}
    {fault : ε} :
    (stage >>= next) = .error fault ↔ stage = .error fault ∨ ∃ middle, stage = .ok middle ∧ next middle = .error fault := by
  cases stage <;> simp [bind, Except.bind]

theorem check_bind_eq_ok_iff
    {check : Except ε Unit}
    {next : Unit → Except ε β}
    {result : β} :
    (check >>= next) = .ok result ↔ check = .ok () ∧ next () = .ok result := by
  rw [bind_eq_ok_iff]
  exact ⟨fun ⟨_, done, further⟩ => ⟨done, further⟩, fun ⟨done, further⟩ => ⟨(), done, further⟩⟩

theorem map_eq_ok_iff
    {stage : Except ε α}
    {change : α → β}
    {result : β} :
    stage.map change = .ok result ↔ ∃ middle, stage = .ok middle ∧ change middle = result := by
  cases stage <;> simp [Except.map]

theorem map_eq_error_iff
    {stage : Except ε α}
    {change : α → β}
    {fault : ε} :
    stage.map change = .error fault ↔ stage = .error fault := by
  cases stage <;> simp [Except.map]

theorem mapError_eq_ok_iff
    {stage : Except ε α}
    {change : ε → δ}
    {result : α} :
    stage.mapError change = .ok result ↔ stage = .ok result := by
  cases stage with
  | error fault => exact iff_of_false nofun nofun
  | ok value => exact ⟨by rintro ⟨⟩; rfl, by rintro ⟨⟩; rfl⟩

theorem forM_eq_ok_iff
    {step : α → Except ε Unit}
    {elements : List α} :
    elements.forM step = .ok () ↔ ∀ element ∈ elements, step element = .ok () := by
  induction elements with
  | nil => exact iff_of_true rfl nofun
  | cons first rest inductionHypothesis =>
      rw [List.forM, check_bind_eq_ok_iff, List.forall_mem_cons, inductionHypothesis]

end Parley
