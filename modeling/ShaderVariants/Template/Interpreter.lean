import ShaderVariants.Template.Engine
import ShaderVariants.Template.Expansion

/-!
# The template interpreter

The template engine that the program runs with: it reads its settings, and expands the template.
-/

namespace ShaderVariants.Template

/-- Why settings cannot be used. -/
inductive SettingFault where
  | container (typeName : String)
  | notText (typeName : String)
  deriving DecidableEq, Repr

/-- The fault as an engine reports it. -/
def SettingFault.toFailure : SettingFault → Failure
  | container typeName => ⟨"TypeError", s!"unhashable type: '{typeName}'"⟩
  | notText typeName => ⟨"TypeError", s!"object of type '{typeName}' has no len()"⟩

/-- The error as an engine reports it. -/
def ExpansionError.toFailure : ExpansionError → Failure
  | malformed fault => ⟨fault.kindName, fault.message⟩
  | rejected rejection => ⟨rejection.kindName, rejection.message⟩
  | failed fault => ⟨fault.kindName, fault.message⟩

/-- What the settings that an engine has unless others are given come to. -/
def Settings.default : Settings := ⟨some ['#'], false, false⟩

namespace Engine.Settings

/-- The mark of line statements, which must be a text. -/
def mark (settings : Engine.Settings) : Except SettingFault (Option (List Char)) :=
  match settings.lineMark with
  | none => .ok none
  | some (.text mark) => .ok (some mark.toList)
  | some other => .error (.notText other.typeName)

/-- The settings for reading templates. None of them may hold other data. -/
def checked (settings : Engine.Settings) : Except SettingFault Template.Settings := do
  let all := settings.lineMark.toList ++ [settings.trimBlocks, settings.stripIndentation]
  match all.find? Datum.isContainer with
  | some datum => throw (.container datum.typeName)
  | none => return ⟨← settings.mark, settings.trimBlocks.isTrue, settings.stripIndentation.isTrue⟩

end Engine.Settings

namespace Value

def ofLiteral : Literal → Value
  | .bool value => .bool value
  | .integer value => .integer value

def truth? : Value → Option Bool
  | bool value => some value
  | _ => Option.none

/-- The text of a value, or the fault as an engine reports it. -/
def output (value : Value) : Except Failure String :=
  value.asText.mapError fun fault => ⟨fault.kindName, fault.message⟩

end Value

/-- What the interpreter answers. With settings that cannot be used it fails always. -/
def render (finalize : Value → Value) (settings : Engine.Settings) (template : String)
    (context : OrderedMap Value) : Except Failure String := do
  let settings ← settings.checked.mapError SettingFault.toFailure
  (expand finalize settings template context).mapError ExpansionError.toFailure

/-- The interpreter as an engine, in a monad of which it uses nothing. -/
def interpreter {m : Type → Type} [Pure m] : Engine m where
  Value := Value
  nothing := .none
  ofLiteral := .ofLiteral
  ofText := .text
  truth? := Value.truth?
  text := Value.output
  render finalize settings template context := pure (render finalize settings template context)

variable {m : Type → Type} [Pure m]

theorem ofLiteral_interpreter (literal : Literal) :
    (interpreter : Engine m).ofLiteral literal = Value.ofLiteral literal := rfl

theorem text_interpreter (value : Value) :
    (interpreter : Engine m).text value = value.output := rfl

theorem answer_interpreter {σ : Type} (finalize : Value → Value) (settings : Engine.Settings)
    (template : String) (context : OrderedMap Value) (state : σ) :
    (((interpreter : Engine (StateM σ)).render finalize settings template context).run state).1 =
      render finalize settings template context := rfl

end ShaderVariants.Template
