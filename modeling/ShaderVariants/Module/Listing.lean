import ShaderVariants.Combination
import ShaderVariants.Text.Table

/-!
# Listings of a module

What a module declares, for people: a table of its declarations with the number of their cases,
and a line for every concrete case with the definitions it is preprocessed with.
-/

namespace ShaderVariants

/-- A concrete case of a declaration: its variant, the selections of a cross product, and its
definitions. -/
structure ConcreteCase where
  variant : String
  combination : Option Combination
  definitions : Definitions
  deriving DecidableEq

namespace ConcreteCase

def listedDefinitions (definitions : Definitions) : String :=
  let listed := definitions.entries.map fun (key, value) => s!"{key}: {value.shown}"
  "\x7b" ++ String.intercalate ", " listed ++ "\x7d"

def title (case : ConcreteCase) : String :=
  match case.combination with
  | none => case.variant
  | some combination => s!"{case.variant}({combination.label})"

def line (case : ConcreteCase) : String :=
  s!"  {case.title}  {listedDefinitions case.definitions}"

end ConcreteCase

namespace Module

def variantCases (module : Module) (shared : Definitions) (variant : Variant) :
    Except EnumerationError (List ConcreteCase) :=
  match variant.body with
  | .hardcoded definitions =>
    let own := Definition.toMap definitions
    .ok [⟨variant.name, none, shared.setAll own.entries⟩]
  | .crossProduct references => do
    let valueEnums ← (module.resolve variant.name references).mapError .unresolved
    let combinations ← (Combination.all valueEnums).mapError .mismatched
    return combinations.map fun combination =>
      ⟨variant.name, some combination, combination.definitions shared⟩

/-- The concrete cases of a declaration, in order. -/
def concreteCases (module : Module) (declaration : VariantsDeclaration) :
    Except EnumerationError (List ConcreteCase) := do
  let shared := declaration.sharedDefinitions
  return (← declaration.variants.mapM (module.variantCases shared)).flatten

/-- A declaration and its cases, a line each. -/
def caseLines (module : Module) (declaration : VariantsDeclaration) :
    Except EnumerationError (List String) := do
  let cases ← module.concreteCases declaration
  return s!"{declaration.name}:" :: cases.map ConcreteCase.line

/-- A declaration in the table of declarations. -/
structure Summary where
  name : String
  kind : String
  caseCount : Nat
  deriving DecidableEq, Repr

def Summary.ofValueEnum (valueEnum : ValueEnum) : Summary :=
  ⟨valueEnum.typeName, s!"value_enum ({valueEnum.kind.name})", valueEnum.cases.length⟩

def declarationSummary (module : Module) (declaration : VariantsDeclaration) :
    Except UnresolvedReference Summary := do
  let count ← module.caseCount declaration
  return ⟨declaration.name, s!"variants ← {declaration.templatePath}", count⟩

/-- The table of declarations: value enums first. Its texts are marked ones. -/
def summary (module : Module) (title : String) : Except UnresolvedReference Text.Table := do
  let declarations ← module.declarations.mapM module.declarationSummary
  let summaries := module.valueEnums.map Summary.ofValueEnum ++ declarations
  return {
    title
    columns := [
      ⟨"Declaration", .left, summaries.map Summary.name⟩,
      ⟨"Kind", .left, summaries.map Summary.kind⟩,
      ⟨"Cases", .right, summaries.map fun summary => toString summary.caseCount⟩] }

end Module

end ShaderVariants
