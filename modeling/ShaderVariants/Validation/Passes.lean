import ShaderVariants.Module.Basic
import ShaderVariants.Name.Snake
import ShaderVariants.Validation.Issue
import ShaderVariants.Validation.Repetition

/-!
# Validation

The checks that the grammar cannot make, in three passes: over the value enums, over the variants
declarations, and over the names of the generated module. Every pass collects all issues it
finds. A module is accepted when no pass finds any.
-/

namespace ShaderVariants

open Repetition (firsts repeated lastLocation)

/-- Members that every generated enum class has besides its cases. -/
def ValueEnum.generatedMembers : List String := ["get_value", "from_value", "cases"]

/-- Members that every generated base class has besides its variants. -/
def VariantsDeclaration.generatedMembers : List String :=
  ["get_shader", "get_raw_shader", "cases", "TEMPLATE_PATH"]

namespace ValueEnum

/-- How issues name a value enum. -/
def title (valueEnum : ValueEnum) : String := s!"value_enum {valueEnum.name}"

/-- Name of the field that holds the selected case in a generated class. -/
def fieldName (valueEnum : ValueEnum) : String := Name.toSnakeCase valueEnum.typeName

/-- A value enum has a case. -/
def emptinessIssues (valueEnum : ValueEnum) : List Issue :=
  if valueEnum.cases.isEmpty then
    [{ declaration := valueEnum.title, cause := .noCases, location := valueEnum.location }]
  else []

/-- Case names differ. -/
def repeatedCaseIssues (valueEnum : ValueEnum) : List Issue :=
  (repeated Case.name valueEnum.cases).map fun case =>
    { declaration := valueEnum.title
      cause := .repeatedCase case.name
      key := some case.name
      location := lastLocation Case.name Case.location case.name valueEnum.cases }

/-- Case literals differ. The location is that of the last case which has the name of the last
one that shares the literal. -/
def sharedLiteralIssues (valueEnum : ValueEnum) : List Issue :=
  (repeated (fun case : Case => case.value.literal.number) valueEnum.cases).map fun first =>
    let sharing := valueEnum.cases.filter fun case =>
      case.value.literal.number = first.value.literal.number
    { declaration := valueEnum.title
      cause := .sharedLiteral (sharing.map Case.name) first.value.literal
      key := some first.name
      location := sharing.getLast?.bind fun last =>
        lastLocation Case.name Case.location last.name valueEnum.cases }

/-- The type name is usable. -/
def typeNameIssues (valueEnum : ValueEnum) : List Issue :=
  match Name.problem? valueEnum.typeName with
  | some problem =>
    [{ declaration := valueEnum.title
       cause := .badTypeName valueEnum.typeName problem
       location := valueEnum.location }]
  | none => []

/-- The name of a case is usable and no generated method. -/
def caseNameIssues (valueEnum : ValueEnum) (case : Case) : List Issue :=
  let issue (cause : Issue.Cause) : Issue :=
    { declaration := valueEnum.title
      cause := cause
      key := some case.name
      location := case.location }
  match Name.problem? case.name with
  | some problem => [issue (.badCaseName case.name problem)]
  | none => if case.name ∈ generatedMembers then [issue (.reservedCaseName case.name)] else []

/-- All issues of one value enum. -/
def issues (valueEnum : ValueEnum) : List Issue :=
  valueEnum.emptinessIssues ++ valueEnum.repeatedCaseIssues ++ valueEnum.sharedLiteralIssues
    ++ valueEnum.typeNameIssues ++ valueEnum.cases.flatMap valueEnum.caseNameIssues

end ValueEnum

namespace VariantsDeclaration

/-- How issues name a variants declaration. -/
def title (declaration : VariantsDeclaration) : String := s!"variants {declaration.name}"

/-- The kind of a shared definition. -/
def sharedKind? (declaration : VariantsDeclaration) (key : String) : Option Scalar.Kind :=
  (declaration.sharedDefinitions.get? key).map Scalar.kind

/-- The name of the declaration is usable. -/
def nameIssues (declaration : VariantsDeclaration) : List Issue :=
  match Name.problem? declaration.name with
  | some problem =>
    [{ declaration := declaration.title
       cause := .badDeclarationName declaration.name problem
       location := declaration.location }]
  | none => []

/-- The keys of a block of definitions differ. -/
def repeatedDefinitionIssues (declaration : VariantsDeclaration) (variant : String)
    (definitions : List Definition) : List Issue :=
  (repeated Definition.key definitions).map fun definition =>
    { declaration := declaration.title
      cause := .repeatedDefinition definition.key
      variant := some variant
      key := some definition.key
      location := lastLocation Definition.key Definition.location definition.key definitions }

/-- The names of the variants differ. -/
def repeatedVariantIssues (declaration : VariantsDeclaration) : List Issue :=
  (repeated Variant.name declaration.variants).map fun variant =>
    { declaration := declaration.title
      cause := .repeatedVariant
      variant := some variant.name
      location := lastLocation Variant.name Variant.location variant.name declaration.variants }

/-- An issue about a variant, written where the variant is. -/
def variantIssue (declaration : VariantsDeclaration) (variant : Variant) (cause : Issue.Cause)
    (key missingEnum : Option String) : Issue :=
  { declaration := declaration.title
    cause := cause
    variant := some variant.name
    missingEnum := missingEnum
    key := key
    location := variant.location }

/-- The name of a variant is usable and no generated member. -/
def variantNameIssues (declaration : VariantsDeclaration) (variant : Variant) : List Issue :=
  match Name.problem? variant.name with
  | some problem =>
    [declaration.variantIssue variant (.badVariantName variant.name problem) none none]
  | none =>
    if variant.name ∈ generatedMembers then
      [declaration.variantIssue variant (.reservedVariantName variant.name) none none]
    else []

/-- A definition of a shared key has the kind of the shared one. -/
def kindIssues (declaration : VariantsDeclaration) (variant : Variant)
    (definition : Definition) : List Issue :=
  match declaration.sharedKind? definition.key with
  | some shared =>
    if shared = definition.value.kind then []
    else
      [{ declaration := declaration.title
         cause := .kindConflict definition.key definition.value.kind shared
         variant := some variant.name
         key := some definition.key
         location := definition.location }]
  | none => []

/-- Why a payload field cannot be generated, if it cannot. -/
def fieldProblem? (field : String) : Option Issue.FieldProblem :=
  match Name.problem? field with
  | some problem => some (.unusable problem)
  | none => if field ∈ generatedMembers then some .generatedMember else none

/-- A reference resolves, its payload field can be generated, and the definition that it sets is
no shared one. -/
def referenceIssues (module : Module) (declaration : VariantsDeclaration) (variant : Variant)
    (reference : String) : List Issue :=
  match module.valueEnum? reference with
  | none =>
    let cause := .unresolvedReference reference (module.aliasFor? reference)
    [declaration.variantIssue variant cause none (some reference)]
  | some valueEnum =>
    let field := valueEnum.fieldName
    let fieldIssues :=
      match fieldProblem? field with
      | some problem =>
        [declaration.variantIssue variant (.badField reference field problem) (some field) none]
      | none => []
    let sharedIssues :=
      if (declaration.sharedKind? valueEnum.name).isSome then
        [declaration.variantIssue variant (.sharedAndSelected valueEnum.name reference)
          (some valueEnum.name) none]
      else []
    fieldIssues ++ sharedIssues

/-- A cross product refers to each value enum once, its references are sound, and its payload
fields differ. -/
def crossProductIssues (module : Module) (declaration : VariantsDeclaration) (variant : Variant)
    (references : List String) : List Issue :=
  let fields := (references.filterMap module.valueEnum?).map ValueEnum.fieldName
  (repeated id references).map (fun reference =>
      declaration.variantIssue variant (.repeatedReference reference) (some reference) none)
    ++ references.flatMap (referenceIssues module declaration variant)
    ++ (repeated id fields).map (fun field =>
      declaration.variantIssue variant (.repeatedField field) (some field) none)

/-- All issues of one variant. -/
def variantIssues (module : Module) (declaration : VariantsDeclaration) (variant : Variant) :
    List Issue :=
  declaration.variantNameIssues variant ++
    match variant.body with
    | .hardcoded definitions =>
      declaration.repeatedDefinitionIssues variant.name definitions
        ++ definitions.flatMap (declaration.kindIssues variant)
    | .crossProduct references => crossProductIssues module declaration variant references

/-- All issues of one variants declaration. -/
def issues (module : Module) (declaration : VariantsDeclaration) : List Issue :=
  declaration.nameIssues
    ++ declaration.repeatedDefinitionIssues "shared" declaration.sharedBlock
    ++ declaration.repeatedVariantIssues
    ++ declaration.variants.flatMap (variantIssues module declaration)

/-- A declaration without variants is allowed but hardly meant. -/
def warnings (declaration : VariantsDeclaration) : List String :=
  if declaration.variants.isEmpty then [s!"variants '{declaration.name}' declares no variants"]
  else []

/-- Name of the class that is generated for a variant. -/
def caseClassName (declaration : VariantsDeclaration) (variant : String) : String :=
  declaration.name ++ variant

end VariantsDeclaration

namespace Module

/-- Issues of the value enums. -/
def valueEnumIssues (module : Module) : List Issue :=
  (repeated ValueEnum.name module.valueEnums).map (fun valueEnum =>
      { declaration := valueEnum.title, cause := .repeatedValueEnum })
    ++ module.valueEnums.flatMap ValueEnum.issues

/-- Issues of the variants declarations. -/
def declarationIssues (module : Module) : List Issue :=
  (repeated VariantsDeclaration.name module.declarations).map (fun declaration =>
      { declaration := declaration.title, cause := .repeatedDeclaration })
    ++ module.declarations.flatMap (VariantsDeclaration.issues module)

/-- A class name of the generated module, what it is generated for, and where that was
written. -/
structure GeneratedName where
  name : String
  owner : String
  location : Option Location

/-- The class names of the generated module: one per value enum, declaration and variant. -/
def generatedNames (module : Module) : List GeneratedName :=
  module.valueEnums.map (fun valueEnum =>
      ⟨valueEnum.typeName, valueEnum.title, valueEnum.location⟩)
    ++ module.declarations.flatMap fun declaration =>
      ⟨declaration.name, declaration.title, declaration.location⟩
        :: declaration.variants.map fun variant =>
          ⟨declaration.caseClassName variant.name,
            s!"variant {declaration.name}::{variant.name}", variant.location⟩

/-- The issues of one class name, of which the first bearer is given: it hides a name that the
module needs, or different declarations bear it. Declarations of one kind and name are reported
elsewhere. -/
def generatedNameIssues (names : List GeneratedName) (first : GeneratedName) : List Issue :=
  let others := ((names.filter fun other => other.name = first.name).map GeneratedName.owner).tail
  let issue (cause : Issue.Cause) : Issue :=
    { declaration := first.owner
      cause := cause
      key := some first.name
      location := first.location }
  (if first.name ∈ Name.reserved ∧ Name.Usable first.name then [issue (.shadowing first.name)]
    else [])
    ++ (if others.any (· ≠ first.owner) then [issue (.collision first.name others)] else [])

/-- Issues of the class names of the generated module. -/
def nameIssues (module : Module) : List Issue :=
  (firsts GeneratedName.name module.generatedNames).flatMap
    (generatedNameIssues module.generatedNames)

/-- All issues of a module. -/
def issues (module : Module) : List Issue :=
  module.valueEnumIssues ++ module.declarationIssues ++ module.nameIssues

/-- All warnings about a module. -/
def warnings (module : Module) : List String :=
  module.declarations.flatMap VariantsDeclaration.warnings

/-- No pass finds an issue. -/
def Accepted (module : Module) : Prop := module.issues = []

instance (module : Module) : Decidable module.Accepted := inferInstanceAs (Decidable (_ = _))

end Module

end ShaderVariants
