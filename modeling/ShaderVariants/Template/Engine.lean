import ShaderVariants.Datum
import ShaderVariants.Decimal.Limit
import ShaderVariants.Preprocessor
import ShaderVariants.Text.Identifier

/-!
# Template engines

The default preprocessor leaves the work to a template engine, of which nothing is known here but
what it is asked for: to expand a template in a context, in which every definition of the case is a
plain truth value or an integer. The one thing that the preprocessor adds is how truth values are
spelled.
-/

namespace ShaderVariants.Template

/-- How an engine is to read templates: the mark of line statements, if there is to be one, and two
values that count as true or not. The engine is the first one to look at them. -/
structure Engine.Settings where
  lineMark : Option Datum
  trimBlocks : Datum
  stripIndentation : Datum

/-- The settings unless others are given: line statements begin with a number sign, and no blanks
are taken away. -/
def Engine.Settings.default : Settings := ⟨some (.text "#"), .bool false, .bool false⟩

/-- A template engine at work in a monad, with the values that its templates compute with. It passes
what a template prints through a function, and puts the result out as a text. -/
structure Engine (m : Type → Type) where
  Value : Type
  nothing : Value
  ofLiteral : Literal → Value
  ofText : String → Value
  truth? : Value → Option Bool
  text : Value → Except Failure String
  render : (finalize : Value → Value) → Engine.Settings → (template : String) →
    (context : OrderedMap Value) → m (Except Failure String)

namespace Engine

variable {m : Type → Type}

/-- Spells truth values as in a shader, and leaves all other values. -/
def inShader (engine : Engine m) (value : engine.Value) : engine.Value :=
  match engine.truth? value with
  | some true => engine.ofText "true"
  | some false => engine.ofText "false"
  | none => value

/-- The values of definitions as plain ones. -/
def context (engine : Engine m) (definitions : Definitions) : OrderedMap engine.Value :=
  definitions.mapValues fun scalar => engine.ofLiteral scalar.literal

/-- The default preprocessor of the library. -/
def preprocessor (engine : Engine m) (settings : Settings) : PreprocessorIn m :=
  fun template definitions =>
    engine.render engine.inShader settings template (engine.context definitions)

end Engine

/-! ## Templates that print a name -/

/-- The template that prints a name. -/
def printOf (name : String) : String := "\x7b\x7b " ++ name ++ " \x7d\x7d"

/-- The name is an identifier of seven-bit characters. -/
def IsPlainName (name : String) : Prop :=
  Text.isIdentifier name = true ∧ ∀ c ∈ name.toList, c.toNat < 128

/-- The names that an expression does not take for variables: constants in both spellings, and the
operator that may begin an expression. -/
def wordNames : List String := ["true", "True", "false", "False", "none", "None", "not"]

/-- What engines are known for where a template only prints a name: the texts of values, the lookup
of variables in the context, constants, which are no variables, and an operator, which is no
expression. The context is handed over as named arguments, among which `self` cannot be. -/
structure Engine.PrintsNames {σ : Type} (engine : Engine (StateM σ)) : Prop where
  text_ofText : ∀ text, engine.text (engine.ofText text) = .ok text
  text_integer : ∀ value : Int, Decimal.exceedsWriting value = false →
    engine.text (engine.ofLiteral (.integer value)) = .ok (toString value)
  text_nothing : engine.text engine.nothing = .ok "None"
  truth?_bool : ∀ value, engine.truth? (engine.ofLiteral (.bool value)) = some value
  truth?_integer : ∀ value, engine.truth? (engine.ofLiteral (.integer value)) = none
  truth?_nothing : engine.truth? engine.nothing = none
  prints_variable : ∀ finalize name context value text state, IsPlainName name →
    name ∉ wordNames → context.contains "self" = false → context.get? name = some value →
    engine.text (finalize value) = .ok text →
    ((engine.render finalize .default (printOf name) context).run state).1 = .ok text
  prints_constant : ∀ finalize name value context text state,
    (name, value) ∈ [("true", engine.ofLiteral (.bool true)),
      ("True", engine.ofLiteral (.bool true)), ("false", engine.ofLiteral (.bool false)),
      ("False", engine.ofLiteral (.bool false)), ("none", engine.nothing),
      ("None", engine.nothing)] →
    context.contains "self" = false → engine.text (finalize value) = .ok text →
    ((engine.render finalize .default (printOf name) context).run state).1 = .ok text
  refuses_operator : ∀ finalize context state, ∃ failure,
    ((engine.render finalize .default (printOf "not") context).run state).1 = .error failure
  refuses_self : ∀ finalize template context state, context.contains "self" = true → ∃ failure,
    ((engine.render finalize .default template context).run state).1 = .error failure

end ShaderVariants.Template
