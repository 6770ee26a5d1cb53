/-!
# Scalars

A shader definition has one of three kinds, and its value is a truth value or an integer that
fits the kind. A `Scalar` carries the proof that it fits, so that whatever reaches the templates
is in range.
-/

namespace ShaderVariants

/-- The kinds a definition or a value enum may have. -/
inductive Scalar.Kind where
  | bool
  | i32
  | u32
  deriving DecidableEq, Repr

/-- A value before anyone asks which kind it fits. -/
inductive Literal where
  | bool (value : Bool)
  | integer (value : Int)
  deriving DecidableEq, Repr

namespace Literal

/-- The literal as the generated module spells it. -/
def written : Literal → String
  | .bool true => "True"
  | .bool false => "False"
  | .integer value => toString value

/-- The number that a literal equals. Truth values count as one and zero. -/
def number : Literal → Int
  | .bool true => 1
  | .bool false => 0
  | .integer value => value

end Literal

namespace Scalar

namespace Kind

/-- All kinds, in the order in which they are offered. -/
def all : List Kind := [.bool, .i32, .u32]

/-- How a declaration spells the kind. -/
def name : Kind → String
  | .bool => "bool"
  | .i32 => "i32"
  | .u32 => "u32"

/-- The kind of a given spelling. -/
def ofName? (name : String) : Option Kind := all.find? fun kind => kind.name == name

/-- The least integer of the kind. The kind of truth values holds no integer. -/
def least : Kind → Int
  | .bool => 0
  | .i32 => -2147483648
  | .u32 => 0

def greatest : Kind → Int
  | .bool => -1
  | .i32 => 2147483647
  | .u32 => 4294967295

/-- The type that the generated module annotates values of the kind with. -/
def annotation : Kind → String
  | .bool => "bool"
  | .i32 => "int"
  | .u32 => "int"

end Kind

/-- Why a value does not fit a kind. A value that is neither a truth value nor an integer is
known by its spelling only. -/
inductive Misfit where
  | notBool (spelling : String)
  | notInteger (spelling : String)
  | outOfRange (value : Int) (kind : Kind)
  deriving DecidableEq, Repr

def Misfit.message : Misfit → String
  | .notBool spelling => s!"expected a bool literal, got {spelling}"
  | .notInteger spelling => s!"expected an integer literal, got {spelling}"
  | .outOfRange value kind => s!"{value} is out of range for {kind.name}"

/-- What is wrong with a literal of the given kind, if anything is. -/
def Kind.misfit? (kind : Kind) (literal : Literal) : Option Misfit :=
  match kind, literal with
  | .bool, .bool _ => none
  | .bool, .integer value => some (.notBool (Literal.integer value).written)
  | _, .bool value => some (.notInteger (Literal.bool value).written)
  | kind, .integer value =>
    if kind.least ≤ value ∧ value ≤ kind.greatest then none else some (.outOfRange value kind)

/-- What is wrong with a value that is neither a truth value nor an integer. -/
def Kind.misfitOfOther (kind : Kind) (spelling : String) : Misfit :=
  match kind with
  | .bool => .notBool spelling
  | _ => .notInteger spelling

end Scalar

/-- A value together with a kind that it fits. -/
structure Scalar where
  kind : Scalar.Kind
  literal : Literal
  fits : kind.misfit? literal = none
  deriving DecidableEq

namespace Scalar

def ofLiteral (kind : Kind) (literal : Literal) : Except Misfit Scalar :=
  match fits : kind.misfit? literal with
  | none => .ok ⟨kind, literal, fits⟩
  | some misfit => .error misfit

/-- The scalar of a truth value, which always fits. -/
def ofBool (value : Bool) : Scalar := ⟨.bool, .bool value, rfl⟩

/-- A scalar as it is shown: a shader's truth value, or the integer followed by its kind. -/
def shown (scalar : Scalar) : String :=
  match scalar.literal with
  | .bool true => "true"
  | .bool false => "false"
  | .integer value => toString value ++ scalar.kind.name

end Scalar

end ShaderVariants
