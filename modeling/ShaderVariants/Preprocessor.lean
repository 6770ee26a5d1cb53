import ShaderVariants.Module.Basic

/-!
# Preprocessors

A preprocessor expands a template under some definitions, or fails. The library never looks into
a template itself. A preprocessor that is at work in a monad may remember its calls, so that equal
calls need not have equal answers. Two preprocessors stand here that make visible what they were
given; templates proper have one of their own.
-/

namespace ShaderVariants

/-- Why a preprocessor failed: the kind of the failure and its words. -/
structure Failure where
  kind : String
  message : String
  deriving DecidableEq, Repr

namespace Failure

def reason (failure : Failure) : String := s!"{failure.kind}: {failure.message}"

end Failure

/-- Expands a template under definitions. -/
abbrev Preprocessor := (template : String) → (definitions : Definitions) → Except Failure String

/-- Expands a template under definitions in a monad, where an answer may depend on earlier calls. -/
abbrev PreprocessorIn (m : Type → Type) :=
  (template : String) → (definitions : Definitions) → m (Except Failure String)

namespace Preprocessor

/-- The preprocessor in a monad of which it uses nothing. -/
def stateless {m : Type → Type} [Pure m] (preprocessor : Preprocessor) : PreprocessorIn m :=
  fun template definitions => pure (preprocessor template definitions)

instance {m : Type → Type} [Pure m] : Coe Preprocessor (PreprocessorIn m) := ⟨stateless⟩

/-- Answers with the same text always. -/
def constant (text : String) : Preprocessor := fun _ _ => .ok text

/-- The definitions in one line, ordered by key. -/
def listing (definitions : Definitions) : String :=
  let sorted := definitions.entries.mergeSort fun first second => first.1 ≤ second.1
  String.intercalate ", " (sorted.map fun (key, value) => s!"{key}={value.shown}")

/-- The first of some definitions that is refused. Values count by the number they equal. -/
def refused? (refusals : List (String × Literal)) (definitions : Definitions) :
    Option (String × Literal) :=
  refusals.find? fun (key, literal) =>
    (definitions.get? key).any fun value => value.literal.number == literal.number

/-- Answers with the template and a comment that lists the definitions, unless one of them is to
be refused. -/
def annotating (refusals : List (String × Literal)) : Preprocessor := fun template definitions =>
  match refused? refusals definitions with
  | some (key, literal) => .error ⟨"RuntimeError", s!"cannot expand {key}={literal.written}"⟩
  | none => .ok s!"{template}// {listing definitions}\n"

end Preprocessor

end ShaderVariants
