import Mathlib.Data.List.DropRight
import ShaderVariants.Preprocessor.Bridge

/-!
# Runs of calls on a bridge

A bridge is what stays between the cases of a declaration, and it changes with every call.  What
it answers depends on a short end of its past only: on the variant that began last and on what was
set since.  Here this past is the list of the calls, and the definitions that reach the
preprocessor are read off this list, without a look at the bridge.

The monad is any lawful one, so an equality of two runs is also one of their effects: the same
calls of the preprocessor in the same order.
-/

namespace ShaderVariants

namespace Bridge

/-- What a bridge is asked to do. -/
inductive Call where
  | beginVariant (name : String)
  | process (overrides : Definitions) (combinationIndex : Option Int)

/-- The answer to a call.  The beginning of a variant has none. -/
abbrev Answer := Option (Except Error String)

namespace Call

/-- The variant that begins with a call. -/
def variant? : Call → Option String
  | .beginVariant name => some name
  | .process _ _ => none

/-- What a call sets. -/
def overrides? : Call → Option Definitions
  | .beginVariant _ => none
  | .process overrides _ => some overrides

end Call

/-- The variant that began last. -/
def latestVariant? (past : List Call) : Option String :=
  (past.filterMap Call.variant?).getLast?

/-- What all cases have set since a variant began last, the latest at the end. -/
def latestOverrides (past : List Call) : List Definitions :=
  (past.rtakeWhile fun call => call.variant?.isNone).filterMap Call.overrides?

/-- The shared definitions with further ones on top, list by list. -/
def overridden (shared : Definitions) (overrides : List Definitions) : Definitions :=
  overrides.foldl (fun definitions further => definitions.setAll further.entries) shared

/-! ### The past with one more call -/

theorem latestVariant?_beginVariant (past : List Call) (name : String) :
    latestVariant? (past ++ [.beginVariant name]) = some name := by
  simp [latestVariant?, Call.variant?]

theorem latestVariant?_process (past : List Call) (overrides : Definitions)
    (combinationIndex : Option Int) :
    latestVariant? (past ++ [.process overrides combinationIndex]) = latestVariant? past := by
  simp [latestVariant?, Call.variant?]

theorem latestOverrides_beginVariant (past : List Call) (name : String) :
    latestOverrides (past ++ [.beginVariant name]) = [] := by
  simp [latestOverrides, Call.variant?]

theorem latestOverrides_process (past : List Call) (overrides : Definitions)
    (combinationIndex : Option Int) :
    latestOverrides (past ++ [.process overrides combinationIndex]) =
      latestOverrides past ++ [overrides] := by
  simp [latestOverrides, Call.variant?, Call.overrides?]

theorem overridden_concat (shared : Definitions) (overrides : List Definitions)
    (further : Definitions) :
    overridden shared (overrides ++ [further]) =
      (overridden shared overrides).setAll further.entries := by
  simp [overridden]

end Bridge

namespace BridgeIn

open Bridge

variable {m : Type → Type} [Monad m]

/-- One call. -/
def perform (bridge : BridgeIn m) : Call → m (Answer × BridgeIn m)
  | .beginVariant name => return (none, bridge.beginVariant name)
  | .process overrides combinationIndex => do
    let (answer, bridge) ← bridge.process overrides combinationIndex
    return (some answer, bridge)

/-- A list of calls, each on the bridge that the one before it has left. -/
def performAll (bridge : BridgeIn m) : List Call → m (List Answer × BridgeIn m)
  | [] => return ([], bridge)
  | call :: calls => do
    let (answer, bridge) ← bridge.perform call
    let (answers, bridge) ← bridge.performAll calls
    return (answer :: answers, bridge)

/-- The answer that a call deserves after other calls.  Of the bridge it takes what never changes;
the definitions come from the calls. -/
def answerAfter (bridge : BridgeIn m) (past : List Call) : Call → m Answer
  | .beginVariant _ => return none
  | .process overrides combinationIndex =>
    match latestVariant? past with
    | none => return some (.error .notBegun)
    | some variant => do
      let expanded ← bridge.preprocessor bridge.template
        (overridden bridge.shared (latestOverrides past ++ [overrides]))
      return some <| expanded.mapError fun failure =>
        .failed ⟨bridge.declaration, variant, combinationIndex, some failure.reason⟩

/-- The answers that all calls of a list deserve. -/
def answersAfter (bridge : BridgeIn m) (past : List Call) : List Call → m (List Answer)
  | [] => return []
  | call :: calls => do
    let answer ← bridge.answerAfter past call
    let answers ← bridge.answersAfter (past ++ [call]) calls
    return answer :: answers

/-- A fresh bridge as some calls leave it.  Cases before the first variant set nothing. -/
def after (bridge : BridgeIn m) (past : List Call) : BridgeIn m :=
  { bridge with
    variant := latestVariant? past
    definitions :=
      if (latestVariant? past).isNone then bridge.shared
      else overridden bridge.shared (latestOverrides past) }

variable [LawfulMonad m]

/-- One step of a run. -/
theorem perform_after (bridge : BridgeIn m) (past : List Call) (call : Call) :
    (bridge.after past).perform call = (do
      let answer ← bridge.answerAfter past call
      return (answer, bridge.after (past ++ [call]))) := by
  cases call with
  | beginVariant name =>
      simp [perform, answerAfter, after, BridgeIn.beginVariant, latestVariant?_beginVariant,
        latestOverrides_beginVariant, overridden]
  | process overrides combinationIndex =>
      cases active : latestVariant? past with
      | none =>
          simp [perform, answerAfter, after, process, latestVariant?_process, active]
      | some variant =>
          simp only [perform, answerAfter, after, process, latestVariant?_process, active,
            latestOverrides_process, overridden_concat, Option.isNone_some, Bool.false_eq_true,
            if_false, bind_assoc]
          congr 1
          funext expanded
          cases expanded with
          | ok text => simp [Except.mapError]
          | error failure => simp [Except.mapError]

/-- A run, from any past on. -/
theorem performAll_after (bridge : BridgeIn m) (past calls : List Call) :
    (bridge.after past).performAll calls = (do
      let answers ← bridge.answersAfter past calls
      return (answers, bridge.after (past ++ calls))) := by
  induction calls generalizing past with
  | nil => simp [performAll, answersAfter]
  | cons call calls ih =>
      simp [performAll, answersAfter, perform_after, ih (past ++ [call])]

theorem performAll_append (bridge : BridgeIn m) (calls others : List Call) :
    bridge.performAll (calls ++ others) = (do
      let (answers, bridge) ← bridge.performAll calls
      let (further, bridge) ← bridge.performAll others
      return (answers ++ further, bridge)) := by
  induction calls generalizing bridge with
  | nil => simp [performAll]
  | cons call calls ih => simp [performAll, ih]

/-- What any calls on a new bridge do: the answers, the calls of the preprocessor on the way and
the definitions at the end are those that the calls themselves determine.  And a variant begins
as on a bridge that nobody has used, whatever came before. -/
theorem performAll_make (preprocessor : PreprocessorIn m) (template declaration : String)
    (shared : Definitions) :
    let bridge := make preprocessor template declaration shared
    (∀ calls, bridge.performAll calls = (do
      let answers ← bridge.answersAfter [] calls
      return (answers, bridge.after calls))) ∧
    ∀ before name behind, bridge.performAll (before ++ .beginVariant name :: behind) = (do
      let (earlier, _) ← bridge.performAll before
      let (later, left) ← bridge.performAll (.beginVariant name :: behind)
      return (earlier ++ later, left)) := by
  intro bridge
  have runs (calls : List Call) : bridge.performAll calls = (do
      let answers ← bridge.answersAfter [] calls
      return (answers, bridge.after calls)) := by
    have fromStart := performAll_after bridge [] calls
    rwa [List.nil_append] at fromStart
  refine ⟨runs, ?_⟩
  intro before name behind
  have begins (past : List Call) :
      (bridge.after past).performAll (.beginVariant name :: behind) =
        bridge.performAll (.beginVariant name :: behind) := by
    simp [performAll, perform, after, BridgeIn.beginVariant]
  simp only [performAll_append, runs before, bind_assoc, pure_bind, begins]

/-- Remembers the definitions of each call, and refuses those with a flag `BROKEN`. -/
def recorder : PreprocessorIn (StateM (List Definitions)) := fun template definitions => do
  modify (· ++ [definitions])
  return if definitions.contains "BROKEN" then .error ⟨"RuntimeError", "refused"⟩ else .ok template

/-- A list of flags in order. -/
def flags (entries : List (String × Bool)) : Definitions :=
  .ofList (entries.map fun (key, value) => (key, .ofBool value))

/-- A case too early, a variant with a case that fails in the middle, and one more variant. -/
def recordedCalls : List Call :=
  [.process (flags [("EARLY", true)]) none,
    .beginVariant "First",
    .process (flags [("FAST", true), ("DEBUG", true)]) none,
    .process (flags [("BROKEN", true)]) (some 0),
    .process (flags [("FAST", false)]) (some 1),
    .beginVariant "Second",
    .process (flags [("LATE", true)]) none]

theorem performAll_make_recorded :
    LawfulMonad (StateM (List Definitions)) ∧
    let bridge := make recorder "text" "Shader" (flags [("DEBUG", false)])
    let answers := (bridge.answersAfter [] recordedCalls).run []
    let failed index := some (.error (.failed
      ⟨"Shader", "First", some index, some "RuntimeError: refused"⟩))
    (bridge.performAll recordedCalls).run [] =
      ((answers.1, bridge.after recordedCalls), answers.2) ∧
    answers.1 = [some (.error .notBegun), none, some (.ok "text"), failed 0, failed 1, none,
      some (.ok "text")] ∧
    answers.2 = [flags [("DEBUG", true), ("FAST", true)],
      flags [("DEBUG", true), ("FAST", true), ("BROKEN", true)],
      flags [("DEBUG", true), ("FAST", false), ("BROKEN", true)],
      flags [("DEBUG", false), ("LATE", true)]] := by
  have runs := (performAll_make recorder "text" "Shader" (flags [("DEBUG", false)])).1 recordedCalls
  refine ⟨inferInstance, congrArg (·.run []) runs, ?_, ?_⟩
  · decide
  · decide

end BridgeIn

end ShaderVariants
