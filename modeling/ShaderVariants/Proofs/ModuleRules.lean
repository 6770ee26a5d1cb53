import ShaderVariants.Validation.Passes

/-!
# The rules of a module

What makes a declaration module acceptable, said without the passes that look for issues: which
names and keys differ, which names the generated module can use, and what the references of a
cross product lead to.  A rule speaks about the whole module even where a pass looks at one
declaration or at the first bearer of a name only.
-/

namespace ShaderVariants

/-- The rules of one value enum.  Literals differ as numbers, so that a truth value counts as the
number that it equals. -/
structure ValueEnum.WellFormed (valueEnum : ValueEnum) : Prop where
  hasCase : valueEnum.cases ≠ []
  caseNamesDiffer : (valueEnum.cases.map Case.name).Nodup
  literalsDiffer : (valueEnum.cases.map fun case => case.value.literal.number).Nodup
  typeNameUsable : Name.Usable valueEnum.typeName
  caseNamesUsable : ∀ case ∈ valueEnum.cases, Name.Usable case.name
  caseNamesFree : ∀ case ∈ valueEnum.cases, case.name ∉ ValueEnum.generatedMembers

/-- The rules of the definitions of a hardcoded variant, over a shared block. -/
structure Variant.HardcodedWellFormed (shared definitions : List Definition) : Prop where
  keysDiffer : (definitions.map Definition.key).Nodup
  kindsAgree : ∀ definition ∈ definitions, ∀ base ∈ shared,
    base.key = definition.key → base.value.kind = definition.value.kind

/-- The rules of the references of a cross product, over a shared block.  A payload field is named
by the type name in snake case. -/
structure Variant.CrossProductWellFormed (module : Module) (shared : List Definition)
    (references : List String) : Prop where
  resolved : ∀ reference ∈ references,
    ∃ valueEnum ∈ module.valueEnums, valueEnum.typeName = reference
  referencesDiffer : references.Nodup
  sharedKeysFree : ∀ valueEnum ∈ module.valueEnums, valueEnum.typeName ∈ references →
    ∀ definition ∈ shared, definition.key ≠ valueEnum.name
  fieldsDiffer : (references.map Name.toSnakeCase).Nodup
  fieldsUsable : ∀ reference ∈ references, Name.Usable (Name.toSnakeCase reference)
  fieldsFree : ∀ reference ∈ references,
    Name.toSnakeCase reference ∉ VariantsDeclaration.generatedMembers

/-- The rules of what a variant consists of. -/
def Variant.Body.WellFormed (module : Module) (shared : List Definition) : Variant.Body → Prop
  | .hardcoded definitions => Variant.HardcodedWellFormed shared definitions
  | .crossProduct references => Variant.CrossProductWellFormed module shared references

/-- The rules of one variants declaration. -/
structure VariantsDeclaration.WellFormed (module : Module) (declaration : VariantsDeclaration) :
    Prop where
  nameUsable : Name.Usable declaration.name
  sharedKeysDiffer : (declaration.sharedBlock.map Definition.key).Nodup
  variantNamesDiffer : (declaration.variants.map Variant.name).Nodup
  variantNamesUsable : ∀ variant ∈ declaration.variants, Name.Usable variant.name
  variantNamesFree : ∀ variant ∈ declaration.variants,
    variant.name ∉ VariantsDeclaration.generatedMembers
  bodies : ∀ variant ∈ declaration.variants,
    variant.body.WellFormed module declaration.sharedBlock

namespace Module

/-- The class names of a variants declaration: its own and those of its variants. -/
def declarationClassNames (declaration : VariantsDeclaration) : List String :=
  declaration.name :: declaration.variants.map fun variant =>
    declaration.caseClassName variant.name

/-- All class names of the generated module. -/
def classNames (module : Module) : List String :=
  module.valueEnums.map ValueEnum.typeName ++ module.declarations.flatMap declarationClassNames

/-- The rules of a whole module.  Only a usable class name is kept apart from the names that the
generated module needs: what is wrong with the others is a matter of the rules on single names. -/
structure WellFormed (module : Module) : Prop where
  enumNamesDiffer : (module.valueEnums.map ValueEnum.name).Nodup
  valueEnums : ∀ valueEnum ∈ module.valueEnums, valueEnum.WellFormed
  declarationNamesDiffer : (module.declarations.map VariantsDeclaration.name).Nodup
  declarations : ∀ declaration ∈ module.declarations, declaration.WellFormed module
  classNamesDiffer : module.classNames.Nodup
  classNamesFree : ∀ name ∈ module.classNames, Name.Usable name → name ∉ Name.reserved

end Module

end ShaderVariants
