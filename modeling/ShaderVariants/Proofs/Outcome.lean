/-!
# Outcomes of actions

Compilations and commands may end in an error, keep a record either way, and work on a state that
others can change.  What comes of such an action is its result, the record after it and the state
after it.  The lemmas below are all that later proofs know about the layers of the monad.
-/

namespace ShaderVariants

variable {ε ω σ α β : Type}

/-- What comes of an action from a record and a state. -/
def outcome (action : ExceptT ε (StateT ω (StateM σ)) α) (record : ω) (state : σ) :
    (Except ε α × ω) × σ :=
  ((action.run.run record).run state).run

theorem outcome_pure (value : α) (record : ω) (state : σ) :
    outcome (pure value : ExceptT ε (StateT ω (StateM σ)) α) record state =
      ((.ok value, record), state) := rfl

theorem outcome_liftM (action : StateM σ α) (record : ω) (state : σ) :
    outcome (liftM action : ExceptT ε (StateT ω (StateM σ)) α) record state =
      ((.ok (action.run state).1, record), (action.run state).2) := rfl

theorem outcome_bind_of_ok {action : ExceptT ε (StateT ω (StateM σ)) α}
    {next : α → ExceptT ε (StateT ω (StateM σ)) β} {record later : ω} {state after : σ} {value : α}
    (first : outcome action record state = ((.ok value, later), after)) :
    outcome (action >>= next) record state = outcome (next value) later after := by
  have run : (action.run.run record).run state = ((.ok value, later), after) := first
  unfold outcome
  rw [ExceptT.run_bind, StateT.run_bind, StateT.run_bind, run]
  rfl

theorem outcome_bind_of_error {action : ExceptT ε (StateT ω (StateM σ)) α}
    {next : α → ExceptT ε (StateT ω (StateM σ)) β} {record later : ω} {state after : σ} {error : ε}
    (first : outcome action record state = ((.error error, later), after)) :
    outcome (action >>= next) record state = ((.error error, later), after) := by
  have run : (action.run.run record).run state = ((.error error, later), after) := first
  unfold outcome
  rw [ExceptT.run_bind, StateT.run_bind, StateT.run_bind, run]
  rfl

/-- The second action does not count for the state if it leaves all states as they are. -/
theorem state_bind {action : ExceptT ε (StateT ω (StateM σ)) α}
    {next : α → ExceptT ε (StateT ω (StateM σ)) β}
    (keeps : ∀ value record state, (outcome (next value) record state).2 = state) (record : ω)
    (state : σ) : (outcome (action >>= next) record state).2 = (outcome action record state).2 := by
  generalize first : outcome action record state = ran
  obtain ⟨⟨result, later⟩, after⟩ := ran
  cases result with
  | error error => rw [outcome_bind_of_error first]
  | ok value => rw [outcome_bind_of_ok first, keeps]

theorem eq_ok_of_toOption {result : Except ε α} {value : α}
    (found : result.toOption = some value) : result = .ok value := by
  cases result with
  | error error => cases found
  | ok other => exact congrArg Except.ok (Option.some.inj found)

end ShaderVariants
