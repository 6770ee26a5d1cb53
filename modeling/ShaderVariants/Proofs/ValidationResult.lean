import ShaderVariants.Proofs.Acceptance
import ShaderVariants.Proofs.CompilerResult

/-!
# Result of a validation

A validation first logs the warnings, which never stop it.  It then ends without a value exactly
when the module follows the rules, and with all issues otherwise.
-/

namespace ShaderVariants.Compiler

/-- What comes of loading a text: an accepted module, or why there is none. -/
def loaded (file : Path) (text : String) : Except CompileError Module :=
  match Module.ofText file text with
  | .error refusal => .error (.ofRefusal file text refusal)
  | .ok module => if module.Accepted then .ok module else .error (.invalid module.issues)

theorem loaded_eq_ok_iff {file : Path} {text : String} {module : Module} :
    loaded file text = .ok module ↔ Module.ofText file text = .ok module ∧ module.Accepted := by
  unfold loaded
  cases Module.ofText file text with
  | error refusal => simp
  | ok other =>
      by_cases accepted : other.Accepted
      · simp only [accepted, if_true, Except.ok.injEq]
        constructor
        · intro same
          exact ⟨same, same ▸ accepted⟩
        · intro both
          exact both.1
      · simp only [accepted, if_false, Except.ok.injEq]
        constructor
        · intro impossible
          cases impossible
        · intro both
          exact (accepted (both.1 ▸ both.2)).elim

variable {m : Type → Type} [Monad m] [LawfulMonad m]

/-- Messages that are logged one after the other change nothing but the log. -/
theorem yields_tellAll (level : LogLevel) (messages : List String) :
    Yields (forIn messages PUnit.unit fun message _ => do
      tell level message
      Pure.pure (ForInStep.yield PUnit.unit) : Compiler m PUnit) (.ok PUnit.unit) [] := by
  induction messages with
  | nil => exact Yields.pure PUnit.unit
  | cons message messages ih =>
      rw [List.forIn_cons]
      have first : Yields (do
          tell level message
          Pure.pure (ForInStep.yield PUnit.unit) : Compiler m (ForInStep PUnit))
          (.ok (ForInStep.yield PUnit.unit)) [] :=
        (Yields.tell level message).bind_silent (Yields.pure _)
      exact first.bind_silent ih

theorem yields_validate (module : Module) :
    Yields (validate module : Compiler m Unit)
      (if module.Accepted then .ok () else .error (.invalid module.issues)) [] := by
  unfold validate
  refine (yields_tellAll LogLevel.warning module.warnings).bind_silent ?_
  by_cases accepted : module.Accepted
  · have noIssue : module.issues = [] := accepted
    simp only [noIssue, accepted, ne_eq, not_true_eq_false, if_false, if_true]
    exact Yields.pure ()
  · have someIssue : module.issues ≠ [] := accepted
    simp only [someIssue, accepted, ne_eq, not_false_eq_true, if_true, if_false]
    exact Yields.throw _

/-- A module is validated successfully exactly when it follows the rules. -/
theorem validate_ok_iff_wellFormed (module : Module) (trace : Trace) :
    ((validate module : Compiler Id Unit).run.run trace).1 = .ok () ↔ module.WellFormed := by
  obtain ⟨later, run, -⟩ := yields_validate (m := Id) module trace
  rw [run]
  change (if module.Accepted then Except.ok () else Except.error (CompileError.invalid _)) =
    Except.ok () ↔ _
  constructor
  · intro succeeded
    by_cases accepted : module.Accepted
    · exact accepted.wellFormed
    · simp [accepted] at succeeded
  · intro rules
    rw [if_pos rules.accepted]

/-- A text is loaded when it declares a module and the module is validated. -/
theorem yields_loadModule (file : Path) (text : String) :
    Yields (loadModule file text : Compiler m Module) (loaded file text) [] := by
  unfold loadModule loaded
  cases declared : Module.ofText file text with
  | error refusal => exact Yields.throw _
  | ok module =>
      have validated := yields_validate (m := m) module
      by_cases accepted : module.Accepted
      · rw [if_pos accepted] at validated
        simp only [accepted, if_true]
        exact validated.bind_silent (Yields.pure module)
      · rw [if_neg accepted] at validated
        simp only [accepted, if_false]
        exact validated.bind_error

theorem loadModule_result (file : Path) (text : String) (trace : Trace) :
    ((loadModule file text : Compiler Id Module).run.run trace).1 = loaded file text := by
  obtain ⟨later, run, -⟩ := yields_loadModule (m := Id) file text trace
  rw [run]
  rfl

end ShaderVariants.Compiler
