import ShaderVariants.Preprocessor

/-!
# Preprocessing the variants of a declaration

A bridge holds the definitions that a template is expanded under. They start from the shared ones
and go back to them with every variant that begins; what a variant sets is set on top.
-/

namespace ShaderVariants

/-- A case that could not be preprocessed. The index is the number of the combination of a cross
product. -/
structure PreprocessingError where
  declaration : String
  variant : String
  combinationIndex : Option Int
  reason : Option String
  deriving DecidableEq, Repr

namespace PreprocessingError

/-- The variant of the case, and its combination if it has one. -/
def place (error : PreprocessingError) : String :=
  let variant := s!"{error.declaration}::{error.variant}"
  match error.combinationIndex with
  | some index => s!"{variant} (combination #{index})"
  | none => variant

/-- The failure in words; an empty reason is none. -/
def message (error : PreprocessingError) : String :=
  let failed := s!"Preprocessing failed for {error.place}"
  match error.reason with
  | some reason => if reason = "" then failed else s!"{failed}: {reason}"
  | none => failed

end PreprocessingError

/-- Why a bridge gives no text: no variant has begun, or the preprocessor failed. -/
inductive Bridge.Error where
  | notBegun
  | failed (error : PreprocessingError)
  deriving DecidableEq, Repr

/-- What is wrong with a call that comes before any variant has begun. -/
def Bridge.notBegunMessage : String := "begin_variant() must be called before process()"

/-- A preprocessor at work on the template of one declaration. -/
structure BridgeIn (m : Type → Type) where
  preprocessor : PreprocessorIn m
  template : String
  declaration : String
  shared : Definitions
  definitions : Definitions
  variant : Option String

/-- A bridge whose preprocessor remembers nothing. -/
abbrev Bridge := BridgeIn Id

namespace BridgeIn

variable {m : Type → Type}

/-- A bridge on which no variant has begun. -/
def make (preprocessor : PreprocessorIn m) (template declaration : String)
    (shared : Definitions) : BridgeIn m :=
  ⟨preprocessor, template, declaration, shared, shared, none⟩

/-- Begins a variant: the definitions go back to the shared ones. -/
def beginVariant (bridge : BridgeIn m) (name : String) : BridgeIn m :=
  { bridge with definitions := bridge.shared, variant := some name }

/-- Expands the template with further definitions on top. They stay for the next case, also when
the preprocessor fails. -/
def process [Monad m] (bridge : BridgeIn m) (overrides : Definitions)
    (combinationIndex : Option Int) : m (Except Bridge.Error String × BridgeIn m) :=
  match bridge.variant with
  | none => return (.error .notBegun, bridge)
  | some variant => do
    let bridge := { bridge with definitions := bridge.definitions.setAll overrides.entries }
    match ← bridge.preprocessor bridge.template bridge.definitions with
    | .ok text => return (.ok text, bridge)
    | .error failure =>
      let error := ⟨bridge.declaration, variant, combinationIndex, some failure.reason⟩
      return (.error (.failed error), bridge)

end BridgeIn

namespace Bridge

def make (preprocessor : Preprocessor) (template declaration : String) (shared : Definitions) :
    Bridge :=
  BridgeIn.make preprocessor template declaration shared

/-- Expands the template at once. -/
def process (bridge : Bridge) (overrides : Definitions) (combinationIndex : Option Int) :
    Except Error String × Bridge :=
  (BridgeIn.process bridge overrides combinationIndex).run

end Bridge

end ShaderVariants
