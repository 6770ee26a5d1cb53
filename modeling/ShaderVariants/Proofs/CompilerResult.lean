import ShaderVariants.Compilation
import ShaderVariants.Proofs.Outcome

/-!
# Results of compiler actions

What an action ends with, and which definitions it hands to the preprocessor, does not depend on
what has happened before.  `Yields` says both at once for an action, and the lemmas below say it for
actions that are put together.  Log entries are left out.

An action that waits for effects of a monad gives what it makes of their answers: `Gathers` says of
which effects, and how.
-/

namespace ShaderVariants.Compiler

variable {m : Type → Type} [Monad m] {α β γ : Type}

section

variable [LawfulMonad m]

theorem run_modify (change : Trace → Trace) (trace : Trace) :
    (modify change : Compiler m Unit).run.run trace = pure (.ok (), change trace) := by
  change (Except.ok <$> (modify change : StateT Trace m Unit)).run trace = _
  rw [StateT.run_map, StateT.run_modify]
  simp

theorem run_tell (level : LogLevel) (message : String) (trace : Trace) :
    (tell level message : Compiler m Unit).run.run trace =
      pure (.ok (), trace.tell level message) := run_modify _ _

theorem run_bind_of_ok {action : Compiler m α} {next : α → Compiler m β} {value : α}
    {trace later : Trace} (run : action.run.run trace = pure (.ok value, later)) :
    (action >>= next).run.run trace = (next value).run.run later := by
  rw [ExceptT.run_bind, StateT.run_bind, run, pure_bind]

end

/-- From every trace the action ends with the result, after calls with the given definitions. -/
def Yields (action : Compiler m α) (result : Except CompileError α) (calls : List Definitions) :
    Prop :=
  ∀ trace, ∃ later : Trace,
    action.run.run trace = Pure.pure (result, later) ∧ later.calls = trace.calls ++ calls

namespace Yields

theorem pure (value : α) : Yields (Pure.pure value : Compiler m α) (.ok value) [] := by
  intro trace
  exact ⟨trace, rfl, by simp⟩

theorem throw (error : CompileError) :
    Yields (MonadExcept.throw error : Compiler m α) (.error error) [] := by
  intro trace
  exact ⟨trace, rfl, by simp⟩

variable [LawfulMonad m]

theorem bind {action : Compiler m α} {next : α → Compiler m β} {value : α}
    {result : Except CompileError β} {before behind : List Definitions}
    (first : Yields action (.ok value) before) (rest : Yields (next value) result behind) :
    Yields (action >>= next) result (before ++ behind) := by
  intro trace
  obtain ⟨middle, firstRun, firstCalls⟩ := first trace
  obtain ⟨later, restRun, restCalls⟩ := rest middle
  refine ⟨later, ?_, ?_⟩
  · rw [run_bind_of_ok firstRun, restRun]
  · rw [restCalls, firstCalls, List.append_assoc]

/-- An error is the end. -/
theorem bind_error {action : Compiler m α} {next : α → Compiler m β} {error : CompileError}
    {calls : List Definitions} (first : Yields action (.error error) calls) :
    Yields (action >>= next) (.error error) calls := by
  intro trace
  obtain ⟨later, firstRun, firstCalls⟩ := first trace
  refine ⟨later, ?_, firstCalls⟩
  rw [ExceptT.run_bind, StateT.run_bind, firstRun, pure_bind]
  rfl

/-- A first action without calls adds none. -/
theorem bind_silent {action : Compiler m α} {next : α → Compiler m β} {value : α}
    {result : Except CompileError β} {calls : List Definitions}
    (first : Yields action (.ok value) []) (rest : Yields (next value) result calls) :
    Yields (action >>= next) result calls :=
  bind first rest

theorem modifies {change : Trace → Trace} {calls : List Definitions}
    (called : ∀ trace, (change trace).calls = trace.calls ++ calls) :
    Yields (modify change : Compiler m Unit) (.ok ()) calls := by
  intro trace
  exact ⟨change trace, run_modify change trace, called trace⟩

theorem tell (level : LogLevel) (message : String) :
    Yields (Compiler.tell level message : Compiler m Unit) (.ok ()) [] :=
  modifies fun trace => by simp [Trace.tell]

/-- What a preprocessor remembers is not touched. -/
theorem outcome_eq {σ : Type} {action : Compiler (StateM σ) α} {result : Except CompileError α}
    {calls : List Definitions} (yields : Yields action result calls) (trace : Trace) (state : σ) :
    ∃ later, outcome action trace state = ((result, later), state) ∧
      later.calls = trace.calls ++ calls := by
  obtain ⟨later, run, called⟩ := yields trace
  exact ⟨later, congrArg (fun action => (StateT.run action state).run) run, called⟩

end Yields

/-- From every trace the action waits for an effect, does not fail, and gives what it makes of the
answer. -/
def Gathers (action : Compiler m α) (effect : m β) (value : β → α) : Prop :=
  ∀ trace, ∃ later : Trace,
    action.run.run trace = (fun answer => (.ok (value answer), later)) <$> effect

namespace Gathers

variable [LawfulMonad m]

/-- What follows the effect depends on its answer only in what it gives. -/
theorem of_effect {effect : m β} {next : β → Compiler m α} {value : β → α}
    (after : ∃ change : Trace → Trace, ∀ answer trace,
      (next answer).run.run trace = Pure.pure (.ok (value answer), change trace)) :
    Gathers (liftM effect >>= next) effect value := by
  obtain ⟨change, after⟩ := after
  intro trace
  refine ⟨change trace, ?_⟩
  have lifted : (liftM effect : Compiler m β).run.run trace =
      (fun answer => (.ok answer, trace)) <$> effect := by
    change (Except.ok <$> (liftM effect : StateT Trace m β)).run trace = _
    rw [StateT.run_map]
    simp
  rw [ExceptT.run_bind, StateT.run_bind, lifted, map_eq_pure_bind, map_eq_pure_bind, bind_assoc]
  congr 1
  funext answer
  rw [pure_bind]
  exact after answer trace

theorem map {action : Compiler m α} {effect : m β} {value : β → α}
    (gathers : Gathers action effect value) (image : α → γ) :
    Gathers (image <$> action) effect fun answer => image (value answer) := by
  intro trace
  obtain ⟨later, run⟩ := gathers trace
  refine ⟨later, ?_⟩
  rw [ExceptT.run_map, StateT.run_map, run, Functor.map_map]
  rfl

/-- Actions one after the other, one for each item of a list. -/
theorem mapM {action : α → Compiler m β} {effect : α → m γ} {value : α → γ → β} {items : List α}
    (each : ∀ item ∈ items, Gathers (action item) (effect item) (value item)) :
    Gathers (items.mapM action) (items.mapM effect) (List.zipWith value items) := by
  induction items with
  | nil =>
      intro trace
      refine ⟨trace, ?_⟩
      rw [List.mapM_nil, List.mapM_nil, map_pure]
      rfl
  | cons item items ih =>
      rw [List.forall_mem_cons] at each
      intro trace
      obtain ⟨middle, run⟩ := each.1 trace
      obtain ⟨later, runs⟩ := ih each.2 middle
      refine ⟨later, ?_⟩
      rw [List.mapM_cons, List.mapM_cons, ExceptT.run_bind, StateT.run_bind, run,
        map_eq_pure_bind, bind_assoc, map_bind]
      congr 1
      funext answer
      rw [pure_bind, map_bind]
      change ((items.mapM action >>= fun results =>
        Pure.pure (value item answer :: results)).run.run middle) = _
      rw [ExceptT.run_bind, StateT.run_bind, runs, map_eq_pure_bind, bind_assoc]
      congr 1
      funext answers
      rw [pure_bind, map_pure]
      rfl

end Gathers

end ShaderVariants.Compiler
