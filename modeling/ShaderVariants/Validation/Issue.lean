import ShaderVariants.Location
import ShaderVariants.Name.Usable
import ShaderVariants.Scalar.Basic

/-!
# Issues

What can be wrong with a module although it follows the grammar. An issue belongs to a
declaration, perhaps to one of its variants, and says what it is about and where that was
written.
-/

namespace ShaderVariants

/-- Why a payload field cannot be generated. -/
inductive Issue.FieldProblem where
  | unusable (problem : Name.Problem)
  | generatedMember
  deriving DecidableEq, Repr

/-- What is wrong. -/
inductive Issue.Cause where
  | repeatedValueEnum
  | noCases
  | repeatedCase (name : String)
  | sharedLiteral (cases : List String) (literal : Literal)
  | badTypeName (name : String) (problem : Name.Problem)
  | badCaseName (name : String) (problem : Name.Problem)
  | reservedCaseName (name : String)
  | repeatedDeclaration
  | badDeclarationName (name : String) (problem : Name.Problem)
  | repeatedDefinition (key : String)
  | repeatedVariant
  | badVariantName (name : String) (problem : Name.Problem)
  | reservedVariantName (name : String)
  | kindConflict (key : String) (here shared : Scalar.Kind)
  | repeatedReference (reference : String)
  | unresolvedReference (reference : String) (alias? : Option String)
  | badField (reference field : String) (problem : Issue.FieldProblem)
  | sharedAndSelected (key reference : String)
  | repeatedField (field : String)
  | shadowing (name : String)
  | collision (name : String) (others : List String)
  | remark (message : String)
  deriving DecidableEq, Repr

/-- Something wrong with a module. -/
structure Issue where
  declaration : String
  cause : Issue.Cause
  variant : Option String := none
  missingEnum : Option String := none
  key : Option String := none
  location : Option Location := none
  deriving DecidableEq, Repr

namespace Issue

def FieldProblem.message (field : String) : FieldProblem → String
  | .unusable problem => problem.message field
  | .generatedMember => s!"'{field}' clashes with a generated member"

/-- A question that helps whoever wrote the declared name of an enum instead of its alias. -/
def hint (reference suggestion : String) : String :=
  s!"did you mean '{suggestion}' (alias of '{reference}')?"

def Cause.message : Cause → String
  | repeatedValueEnum => "duplicate value_enum declaration"
  | noCases => "value_enum declaration must have at least one value"
  | repeatedCase name => s!"duplicate case name '{name}'"
  | sharedLiteral cases literal =>
    "cases " ++ String.intercalate ", " cases ++ s!" share the literal {literal.written}"
  | badTypeName name problem => s!"invalid type name: {problem.message name}"
  | badCaseName name problem => s!"invalid case name: {problem.message name}"
  | reservedCaseName name => s!"case name '{name}' clashes with a generated method"
  | repeatedDeclaration => "duplicate variants declaration"
  | badDeclarationName name problem => s!"invalid name: {problem.message name}"
  | repeatedDefinition key => s!"duplicate definition '{key}'"
  | repeatedVariant => "duplicate variant name"
  | badVariantName name problem => s!"invalid variant name: {problem.message name}"
  | reservedVariantName name => s!"variant name '{name}' clashes with a generated member"
  | kindConflict key here shared =>
    s!"definition '{key}' is {here.name} here but {shared.name} in shared"
  | repeatedReference reference => s!"value enum '{reference}' is referenced more than once"
  | unresolvedReference reference none => s!"value enum '{reference}' is not declared"
  | unresolvedReference reference (some suggestion) =>
    s!"value enum '{reference}' is not declared; {hint reference suggestion}"
  | badField reference field problem =>
    s!"invalid payload field for value enum '{reference}': {problem.message field}"
  | sharedAndSelected key reference =>
    s!"'{key}' is both a shared definition and the definition set by value enum '{reference}'"
  | repeatedField field => s!"two referenced enums map to the same payload field '{field}'"
  | shadowing name => s!"generated name '{name}' shadows a name the generated module uses"
  | collision name others =>
    s!"generated name '{name}' collides with " ++ String.intercalate ", " others
  | remark message => message

/-- The declaration that an issue belongs to, with the variant if one is named. -/
def scope (issue : Issue) : String :=
  match issue.variant with
  | some variant =>
    if variant = "" then issue.declaration else s!"{issue.declaration}::{variant}"
  | none => issue.declaration

/-- The issue in one line: where, what it belongs to, and what is wrong. -/
def text (issue : Issue) : String :=
  let statement := s!"{issue.scope}: {issue.cause.message}"
  match issue.location with
  | some location => s!"{location.shown}: {statement}"
  | none => statement

/-- All issues of a module in one text. -/
def summary (issues : List Issue) : String :=
  "Validation failed:\n" ++ String.intercalate "\n" (issues.map fun issue => "  - " ++ issue.text)

end Issue

end ShaderVariants
