import ShaderVariants.Location
import ShaderVariants.OrderedMap
import ShaderVariants.Scalar.Basic

/-!
# Declaration modules

What one declaration text declares: value enums, which name the values of a scalar, and variants
declarations, which list the variants of a shader template. A variant either writes its own
definitions out or is a cross product, which takes one case of each of several value enums.
-/

namespace ShaderVariants

/-- Definitions handed to a preprocessor: a scalar per key, in order. -/
abbrev Definitions := OrderedMap Scalar

/-- A named case of a value enum. -/
structure ValueEnum.Case where
  name : String
  value : Scalar
  location : Option Location
  deriving DecidableEq

/-- A finite, ordered set of named scalars. Its declared name is also the definition that a
selected case sets. -/
structure ValueEnum where
  name : String
  alias? : Option String
  kind : Scalar.Kind
  cases : List ValueEnum.Case
  isPublic : Bool
  location : Option Location
  deriving DecidableEq

/-- A named, typed definition. -/
structure Definition where
  key : String
  value : Scalar
  location : Option Location
  deriving DecidableEq

/-- What a variant consists of. -/
inductive Variant.Body where
  | hardcoded (definitions : List Definition)
  | crossProduct (references : List String)
  deriving DecidableEq

/-- One variant of a shader template. -/
structure Variant where
  name : String
  body : Variant.Body
  location : Option Location
  deriving DecidableEq

/-- A shader template with its variants. The shared block, where there is one, holds the
definitions that every variant starts from. -/
structure VariantsDeclaration where
  name : String
  templatePath : String
  shared : Option (List Definition)
  variants : List Variant
  isPublic : Bool
  location : Option Location
  deriving DecidableEq

/-- All declarations of one text. Value enums belong to the whole module, so that a cross product
may refer to one that is declared after it. -/
structure Module where
  file : String
  valueEnums : List ValueEnum
  declarations : List VariantsDeclaration
  deriving DecidableEq

namespace ValueEnum

/-- Name of the generated class, by which cross products refer to the enum: the alias, if one is
given that is not empty. -/
def typeName (valueEnum : ValueEnum) : String :=
  match valueEnum.alias? with
  | none => valueEnum.name
  | some name => if name = "" then valueEnum.name else name

/-- The first case of a name. -/
def case? (valueEnum : ValueEnum) (name : String) : Option Case :=
  valueEnum.cases.find? fun case => case.name == name

end ValueEnum

/-- The definitions of a block, by key. -/
def Definition.toMap (definitions : List Definition) : Definitions :=
  OrderedMap.ofList (definitions.map fun definition => (definition.key, definition.value))

namespace VariantsDeclaration

/-- The definitions of the shared block, of which there are none without the block. -/
def sharedBlock (declaration : VariantsDeclaration) : List Definition :=
  declaration.shared.getD []

/-- What every variant starts from. -/
def sharedDefinitions (declaration : VariantsDeclaration) : Definitions :=
  Definition.toMap declaration.sharedBlock

end VariantsDeclaration

namespace Module

/-- The first value enum of a type name. -/
def valueEnum? (module : Module) (typeName : String) : Option ValueEnum :=
  module.valueEnums.find? fun valueEnum => valueEnum.typeName == typeName

/-- The alias to suggest for a reference that names a value enum by its declared name. -/
def aliasFor? (module : Module) (reference : String) : Option String :=
  module.valueEnums.findSome? fun valueEnum =>
    match valueEnum.alias? with
    | some name => if valueEnum.name = reference ∧ name ≠ "" then some name else none
    | none => none

end Module

end ShaderVariants
