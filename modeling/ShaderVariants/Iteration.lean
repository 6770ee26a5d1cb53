/-!
# Iteration

A step that may answer with a next state is repeated until it has no answer. The number of rounds
is limited by a bound, which callers take from the length of what is left to read, as each answer
costs a part of it.
-/

namespace ShaderVariants

variable {m : Type → Type} [Monad m] {α : Type}

/-- Repeats a step until it has no answer, and no more than `bound` times. -/
def iterateWithin (step : α → m (Option α)) : (bound : Nat) → α → m α
  | 0, state => return state
  | bound + 1, state => do
    match ← step state with
    | none => return state
    | some next => iterateWithin step bound next

end ShaderVariants
