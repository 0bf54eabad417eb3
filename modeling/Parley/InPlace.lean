/-!
# Changes in place

What changes a state in place goes on step by step and may fail on the way.  A failure comes with the state as it is at that
moment, and nothing is taken back.
-/

namespace Parley
namespace InPlace

variable {ε σ α : Type}

/-- How a change ends, and the state that it leaves. -/
def ending (change : EStateM ε σ α) (state : σ) : Except ε α × σ :=
  match change state with
  | .ok value after => (.ok value, after)
  | .error error after => (.error error, after)

/-- The state that a change leaves, whether it is made or fails. -/
def left (change : EStateM ε σ α) (state : σ) : σ := (ending change state).2

/-- What a change that is made gives, with the state after it, or why it is not made. -/
def outcome (change : EStateM ε σ α) (state : σ) : Except ε (α × σ) :=
  match change state with
  | .ok value after => .ok (value, after)
  | .error error _ => .error error

end InPlace
end Parley
