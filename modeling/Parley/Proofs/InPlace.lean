import Parley.InPlace

/-!
# Changes that are made as a whole

A change that first only reads, and then makes a change that cannot fail, is made as a whole or not at all: where it fails,
it leaves the state as it was.  What one change behind another does is opened here, for proofs elsewhere to use by name.
-/

namespace Parley
namespace InPlace

variable {ε σ α β : Type} {change : EStateM ε σ α} {next : α → EStateM ε σ β}
  {state after : σ} {value : α} {error : ε}

/-! ## Changes one after the other -/

theorem bind_apply
    (change : EStateM ε σ α)
    (next : α → EStateM ε σ β)
    (state : σ) :
    (change >>= next) state = match change state with
      | .ok value after => next value after
      | .error error after => .error error after := by
  change EStateM.bind change next state = _
  unfold EStateM.bind
  cases change state <;> rfl

theorem get_apply
    (state : σ) :
    (get : EStateM ε σ σ) state = .ok state state := rfl

theorem ofExcept_apply
    (result : Except ε α)
    (state : σ) :
    (MonadExcept.ofExcept result : EStateM ε σ α) state = match result with
      | .ok value => .ok value state
      | .error error => .error error state := by
  cases result <;> rfl

/-! ## What changes give -/

theorem outcome_bind
    (change : EStateM ε σ α)
    (next : α → EStateM ε σ β)
    (state : σ) :
    outcome (change >>= next) state = outcome change state >>= fun made => outcome (next made.1) made.2 := by
  rw [outcome, outcome, bind_apply]
  cases change state <;> rfl

theorem outcome_get_bind
    (next : σ → EStateM ε σ β)
    (state : σ) :
    outcome (get >>= next) state = outcome (next state) state := rfl

theorem outcome_ofExcept_bind
    (result : Except ε α)
    (next : α → EStateM ε σ β)
    (state : σ) :
    outcome (MonadExcept.ofExcept result >>= next) state = result >>= fun value => outcome (next value) state := by
  cases result <;> rfl

/-- A change ends well if it is made, with what it gives. -/
theorem ending_eq_ok_iff :
    ending change state = (.ok value, after) ↔ outcome change state = .ok (value, after) := by
  unfold ending outcome
  cases change state <;> simp

/-- A change ends badly if it is not made. -/
theorem ending_eq_error_iff :
    (ending change state).1 = .error error ↔ outcome change state = .error error := by
  unfold ending outcome
  cases change state <;> simp

theorem left_of_outcome
    (made : outcome change state = .ok (value, after)) :
    left change state = after := by
  rw [left, ending_eq_ok_iff.mpr made]

/-! ## Reading first -/

/-- A change that leaves every state as it is. -/
def OnlyReads (change : EStateM ε σ α) : Prop := ∀ state, left change state = state

/-- A change that is made in every state. -/
def NeverFails (change : EStateM ε σ α) : Prop := ∀ state, ∃ value after, change state = .ok value after

/-- A change that leaves the state as it is wherever it fails. -/
def AllOrNothing (change : EStateM ε σ α) : Prop :=
  ∀ state error after, change state = .error error after → after = state

/-- Two changes fail where the first one fails, or the second one in the state that the first one leaves. -/
theorem bind_eq_error_iff :
    (change >>= next) state = .error error after ↔
      change state = .error error after ∨
        ∃ value middle, change state = .ok value middle ∧ next value middle = .error error after := by
  rw [bind_apply]
  cases change state with
  | ok value middle => simp [and_assoc]
  | error fault middle => simp

theorem onlyReads_get : OnlyReads (get : EStateM ε σ σ) := fun _ => rfl

theorem onlyReads_ofExcept
    (result : Except ε α) :
    OnlyReads (MonadExcept.ofExcept result : EStateM ε σ α) := by
  intro state
  cases result <;> rfl

theorem OnlyReads.eq_of_ok
    (reads : OnlyReads change)
    (read : change state = .ok value after) :
    after = state := by
  rw [← reads state, left, ending, read]

theorem OnlyReads.allOrNothing
    (reads : OnlyReads change) :
    AllOrNothing change := by
  intro state error after failed
  rw [← reads state, left, ending, failed]

theorem neverFails_pure
    (value : α) :
    NeverFails (pure value : EStateM ε σ α) := fun _ => ⟨_, _, rfl⟩

theorem neverFails_set
    (after : σ) :
    NeverFails (set after : EStateM ε σ PUnit) := fun _ => ⟨_, _, rfl⟩

theorem neverFails_modify
    (write : σ → σ) :
    NeverFails (modify write : EStateM ε σ PUnit) := fun _ => ⟨_, _, rfl⟩

theorem NeverFails.bind
    (first : NeverFails change)
    (second : ∀ value, NeverFails (next value)) :
    NeverFails (change >>= next) := by
  intro state
  obtain ⟨value, middle, made⟩ := first state
  rw [bind_apply, made]
  exact second value middle

theorem NeverFails.allOrNothing
    (sure : NeverFails change) :
    AllOrNothing change := by
  intro state error after failed
  obtain ⟨value, other, made⟩ := sure state
  cases made.symm.trans failed

/-- What comes behind reading begins in the state of before. -/
theorem OnlyReads.bind
    (reads : OnlyReads change)
    (whole : ∀ value, AllOrNothing (next value)) :
    AllOrNothing (change >>= next) := by
  intro state error after failed
  obtain unread | ⟨value, middle, read, failedThere⟩ := bind_eq_error_iff.mp failed
  · exact reads.allOrNothing state error after unread
  · obtain rfl := reads.eq_of_ok read
    exact whole value middle error after failedThere

/-- Behind a change that is made as a whole there may come one that cannot fail. -/
theorem AllOrNothing.bind
    (whole : AllOrNothing change)
    (sure : ∀ value, NeverFails (next value)) :
    AllOrNothing (change >>= next) := by
  intro state error after failed
  obtain unmade | ⟨value, middle, -, failedThere⟩ := bind_eq_error_iff.mp failed
  · exact whole state error after unmade
  · obtain ⟨result, last, made⟩ := sure value middle
    cases made.symm.trans failedThere

/-- A change that is made as a whole leaves the state as it is where it ends badly. -/
theorem AllOrNothing.eq_of_ending
    (whole : AllOrNothing change)
    (failed : ending change state = (.error error, after)) :
    after = state := by
  unfold ending at failed
  cases ended : change state with
  | ok value middle =>
      rw [ended] at failed
      cases failed
  | error fault middle =>
      rw [ended] at failed
      cases failed
      exact whole state error after ended

theorem AllOrNothing.left_of_outcome
    (whole : AllOrNothing change)
    (failed : outcome change state = .error error) :
    left change state = state :=
  whole.eq_of_ending (Prod.ext (ending_eq_error_iff.mpr failed) rfl)

/-- Changes that are made as a whole end in the same way if they give the same. -/
theorem AllOrNothing.ending_congr
    {other : EStateM ε σ α}
    (whole : AllOrNothing change)
    (otherWhole : AllOrNothing other)
    (same : outcome change state = outcome other state) :
    ending change state = ending other state := by
  cases made : outcome change state with
  | ok result =>
      obtain ⟨value, after⟩ := result
      rw [ending_eq_ok_iff.mpr made, ending_eq_ok_iff.mpr (same.symm.trans made)]
  | error error =>
      have otherMade := same.symm.trans made
      have sameEnd := (ending_eq_error_iff.mpr made).trans (ending_eq_error_iff.mpr otherMade).symm
      have sameState := (whole.left_of_outcome made).trans (otherWhole.left_of_outcome otherMade).symm
      exact Prod.ext sameEnd sameState

end InPlace
end Parley
