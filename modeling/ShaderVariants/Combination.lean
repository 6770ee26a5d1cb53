import ShaderVariants.Module.Basic
import ShaderVariants.Odometer

/-!
# Combinations

A cross-product variant stands for one combination of cases per tuple of cases of its value
enums. The combinations come in odometer order, so that the case of the last enum changes
fastest, and are numbered from zero.
-/

namespace ShaderVariants

/-- A case of a value enum that has been selected. -/
structure Selection where
  valueEnum : ValueEnum
  case : ValueEnum.Case
  deriving DecidableEq

namespace Selection

/-- The selection as the generated module refers to it. -/
def shown (selection : Selection) : String :=
  s!"{selection.valueEnum.typeName}.{selection.case.name}"

def definition (selection : Selection) : String × Scalar :=
  (selection.valueEnum.name, selection.case.value)

end Selection

/-- One selection per value enum of a cross product, with its number. -/
structure Combination where
  index : Nat
  selections : List Selection
  deriving DecidableEq

namespace Combination

/-- The definitions that the selections set. -/
def overrides (combination : Combination) : Definitions :=
  OrderedMap.ofList (combination.selections.map Selection.definition)

/-- The shared definitions with those of the selections set on top. -/
def definitions (combination : Combination) (shared : Definitions) : Definitions :=
  shared.setAll combination.overrides.entries

/-- The selections in one line. -/
def label (combination : Combination) : String :=
  String.intercalate ", " (combination.selections.map Selection.shown)

/-- Why a row of digits selects no cases: a digit is no place of a case, or the value enums and the
digits do not pair up. -/
inductive Mismatch where
  | noCase
  | tooFewDigits
  | tooManyDigits
  deriving DecidableEq, Repr

def Mismatch.message : Mismatch → String
  | noCase => "list index out of range"
  | tooFewDigits => "zip() argument 2 is shorter than argument 1"
  | tooManyDigits => "zip() argument 2 is longer than argument 1"

/-- The selections that a row of digits stands for: one digit for the place of the case in each
enum. -/
def select : List ValueEnum → List Nat → Except Mismatch (List Selection)
  | [], [] => .ok []
  | [], _ :: _ => .error .tooManyDigits
  | _ :: _, [] => .error .tooFewDigits
  | valueEnum :: valueEnums, digit :: digits =>
    match valueEnum.cases[digit]? with
    | none => .error .noCase
    | some case => (⟨valueEnum, case⟩ :: ·) <$> select valueEnums digits

/-- The combination that a numbered row of digits stands for. -/
def ofRow (valueEnums : List ValueEnum) (row : List Nat × Nat) : Except Mismatch Combination :=
  (⟨row.2, ·⟩) <$> select valueEnums row.1

/-- The rows of digits of the odometer whose bases are the numbers of cases, numbered. -/
def rows (valueEnums : List ValueEnum) : List (List Nat × Nat) :=
  (Odometer.combinations (valueEnums.map fun valueEnum => valueEnum.cases.length)).zipIdx

def all (valueEnums : List ValueEnum) : Except Mismatch (List Combination) :=
  (rows valueEnums).mapM (ofRow valueEnums)

end Combination

/-- A reference of a cross product that names no value enum. -/
structure UnresolvedReference where
  reference : String
  variant : String
  deriving DecidableEq, Repr

def UnresolvedReference.message (error : UnresolvedReference) : String :=
  s!"value enum '{error.reference}' referenced by '{error.variant}' is not declared"

/-- Why the cases of a variant cannot be enumerated. -/
inductive EnumerationError where
  | unresolved (error : UnresolvedReference)
  | mismatched (mismatch : Combination.Mismatch)
  deriving DecidableEq, Repr

namespace Module

/-- The value enums that a cross product refers to. -/
def resolve (module : Module) (variant : String) :
    List String → Except UnresolvedReference (List ValueEnum)
  | [] => .ok []
  | reference :: rest =>
    match module.valueEnum? reference with
    | none => .error ⟨reference, variant⟩
    | some valueEnum => (valueEnum :: ·) <$> module.resolve variant rest

/-- Number of cases that a variant stands for. -/
def variantCount (module : Module) (variant : Variant) : Except UnresolvedReference Nat :=
  match variant.body with
  | .hardcoded _ => .ok 1
  | .crossProduct references => do
    let valueEnums ← module.resolve variant.name references
    return (Odometer.ofBases (valueEnums.map fun valueEnum => valueEnum.cases.length)).total

/-- Number of cases that a declaration stands for. -/
def caseCount (module : Module) (declaration : VariantsDeclaration) :
    Except UnresolvedReference Nat := do
  return (← declaration.variants.mapM module.variantCount).foldr (· + ·) 0

end Module

end ShaderVariants
