import ShaderVariants.Combination
import ShaderVariants.Generated.Module
import ShaderVariants.Validation.Passes

/-!
# Emission

Building the generated module from a declaration module and the preprocessed cases of its
declarations. The case tables are checked on the way: each holds as many cases as its declaration
stands for, no two alike, and none of a variant that the declaration does not have.
-/

namespace ShaderVariants

/-- A case with its preprocessed source. -/
structure ResolvedCase where
  variant : String
  selections : List Selection
  source : String
  deriving DecidableEq

/-- A declaration with the text of its template and its cases. -/
structure ResolvedDeclaration where
  declaration : VariantsDeclaration
  template : String
  cases : List ResolvedCase
  deriving DecidableEq

/-- Why no module is generated. -/
inductive EmissionError where
  | unresolved (error : UnresolvedReference)
  | wrongCount (declaration : String) (found expected : Nat)
  | repeatedCase (declaration : String)
  | foreignCase (variant declaration : String)
  deriving DecidableEq, Repr

namespace EmissionError

def message : EmissionError → String
  | unresolved error => error.message
  | wrongCount declaration found expected =>
    s!"Case table of '{declaration}' has {found} entries, expected {expected}"
  | repeatedCase declaration => s!"Case table of '{declaration}' contains duplicate cases"
  | foreignCase variant declaration =>
    s!"Case '{variant}' is not a variant of '{declaration}'"

end EmissionError

namespace Generated

def caseKey (declaration : VariantsDeclaration) (case : ResolvedCase) : CaseKey :=
  ⟨declaration.caseClassName case.variant, case.selections.map Selection.shown⟩

def enumClass (valueEnum : ValueEnum) : EnumClass where
  name := valueEnum.typeName
  declaredName := valueEnum.name
  kind := valueEnum.kind
  declaredAt := valueEnum.location.map Location.anchor
  members := valueEnum.cases.map fun case => (case.name, case.value.literal)

def caseClass (module : ShaderVariants.Module) (declaration : VariantsDeclaration)
    (variant : Variant) : Except UnresolvedReference CaseClass := do
  let valueEnums ←
    match variant.body with
    | .hardcoded _ => .ok []
    | .crossProduct references => module.resolve variant.name references
  return ⟨variant.name, declaration.caseClassName variant.name,
    valueEnums.map fun valueEnum => (valueEnum.fieldName, valueEnum.typeName)⟩

def checkTotal (module : ShaderVariants.Module) (resolved : ResolvedDeclaration) :
    Except EmissionError Unit := do
  let declaration := resolved.declaration
  let expected ← (module.caseCount declaration).mapError .unresolved
  if resolved.cases.length ≠ expected then
    throw (.wrongCount declaration.name resolved.cases.length expected)
  if ¬ (resolved.cases.map fun case => (caseKey declaration case).text).Nodup then
    throw (.repeatedCase declaration.name)
  match resolved.cases.find? fun case => case.variant ∉ declaration.variants.map Variant.name with
  | some case => throw (.foreignCase case.variant declaration.name)
  | none => return ()

/-- The classes and tables of a declaration. -/
def family (module : ShaderVariants.Module) (resolved : ResolvedDeclaration) :
    Except EmissionError Family := do
  let declaration := resolved.declaration
  checkTotal module resolved
  let caseClasses ←
    (declaration.variants.mapM (caseClass module declaration)).mapError .unresolved
  return {
    name := declaration.name
    templatePath := declaration.templatePath
    declaredAt := declaration.location.map Location.anchor
    caseClasses := caseClasses
    template := resolved.template
    sources := resolved.cases.map fun case => (caseKey declaration case, case.source) }

/-- Names that the generated module exports: those of public declarations. -/
def exports (module : ShaderVariants.Module) : List String :=
  (module.valueEnums.filter ValueEnum.isPublic).map ValueEnum.typeName
    ++ (module.declarations.filter VariantsDeclaration.isPublic).flatMap fun declaration =>
      declaration.name :: declaration.variants.map fun variant =>
        declaration.caseClassName variant.name

def ofResolved (module : ShaderVariants.Module) (resolved : List ResolvedDeclaration) :
    Except EmissionError Module := do
  let families ← resolved.mapM (family module)
  return {
    sourceName := (Path.ofString module.file).fileName
    exports := exports module
    enumClasses := module.valueEnums.map enumClass
    families := families }

end Generated

end ShaderVariants
