import ShaderVariants.Template.Value

/-!
# Template syntax trees

What a template says: text to copy, values to print, and statements that choose, repeat and
assign. Expressions are built from constants and variables.
-/

namespace ShaderVariants.Template

/-- Operators before one operand. -/
inductive UnaryOperator where
  | negative
  | positive
  | negation
  deriving DecidableEq, Repr

/-- Operators between two operands. -/
inductive BinaryOperator where
  | add
  | subtract
  | multiply
  | divide
  | floorDivide
  | modulo
  | power
  deriving DecidableEq, Repr

/-- Relations between two operands. -/
inductive Relation where
  | equal
  | unequal
  | less
  | lessEqual
  | greater
  | greaterEqual
  | isIn
  | notIn
  deriving DecidableEq, Repr

/-- An expression. A comparison may go on with further relations, all of which have to hold. A
choice without an alternative remembers its line. Bounds of a slice that are not given are `none`
as constants. -/
inductive Expression where
  | constant (value : Value)
  | variable (name : String)
  | tuple (items : List Expression)
  | list (items : List Expression)
  | dictionary (entries : List (Expression × Expression))
  | unary (operator : UnaryOperator) (operand : Expression)
  | binary (operator : BinaryOperator) (left right : Expression)
  | joined (items : List Expression)
  | comparison (first : Expression) (others : List (Relation × Expression))
  | both (left right : Expression)
  | either (left right : Expression)
  | choice (test value : Expression) (alternative : Option Expression) (line : Nat)
  | member (owner : Expression) (name : String)
  | element (owner index : Expression)
  | slice (owner start stop step : Expression)
  | call (function : Expression) (arguments : List Expression)
    (named : List (String × Expression))
  | filter (name : String) (operand : Expression) (arguments : List Expression)
    (named : List (String × Expression))
  | test (name : String) (operand : Expression) (arguments : List Expression)
    (named : List (String × Expression))

namespace BinaryOperator

/-- What messages call the kind of expression that the operator makes. -/
def kindName : BinaryOperator → String
  | add => "add"
  | subtract => "sub"
  | multiply => "mul"
  | divide => "div"
  | floorDivide => "floordiv"
  | modulo => "mod"
  | power => "pow"

def spelling : BinaryOperator → String
  | add => "+"
  | subtract => "-"
  | multiply => "*"
  | divide => "/"
  | floorDivide => "//"
  | modulo => "%"
  | power => "** or pow()"

end BinaryOperator

def Relation.spelling : Relation → String
  | .equal => "=="
  | .unequal => "!="
  | .less => "<"
  | .lessEqual => "<="
  | .greater => ">"
  | .greaterEqual => ">="
  | .isIn => "in"
  | .notIn => "not in"

namespace Expression

def kindName : Expression → String
  | constant _ => "const"
  | .variable _ => "name"
  | tuple _ => "tuple"
  | list _ => "list"
  | dictionary _ => "dict"
  | unary .negative _ => "neg"
  | unary .positive _ => "pos"
  | unary .negation _ => "not"
  | binary operator _ _ => operator.kindName
  | joined _ => "concat"
  | comparison _ _ => "compare"
  | both _ _ => "and"
  | either _ _ => "or"
  | choice _ _ _ _ => "condexpr"
  | member _ _ => "getattr"
  | element _ _ => "getitem"
  | slice _ _ _ _ => "getitem"
  | call _ _ _ => "call"
  | filter _ _ _ _ => "filter"
  | test _ _ _ _ => "test"

end Expression

/-- A filter with its arguments, but without what it is applied to. -/
structure FilterCall where
  name : String
  arguments : List Expression
  named : List (String × Expression)

def FilterCall.on (call : FilterCall) (operand : Expression) : Expression :=
  .filter call.name operand call.arguments call.named

/-- What is assigned to: a name, a part of the value of a name, or several targets that share the
members of the value. -/
inductive Target where
  | single (name : String)
  | part (owner name : String)
  | several (items : List Target)

namespace Target

mutual

/-- The names of a target that get values, from the left to the right. -/
def names : Target → List String
  | single name => [name]
  | part _ _ => []
  | several items => namesOfAll items

def namesOfAll : List Target → List String
  | [] => []
  | item :: items => names item ++ namesOfAll items

end

mutual

/-- The names of a target whose values get parts. -/
def owners : Target → List String
  | single _ => []
  | part owner _ => [owner]
  | several items => ownersOfAll items

def ownersOfAll : List Target → List String
  | [] => []
  | item :: items => owners item ++ ownersOfAll items

end

end Target

/-- What a template puts out in between of its statements. -/
inductive Piece where
  | data (text : String)
  | print (value : Expression)

/-- A part of a template. The alternative of a branch may be another branch, and that of a loop
counts if there are no items. What is captured may go through filters. -/
inductive Node where
  | output (pieces : List Piece)
  | branch (test : Expression) (body alternative : List Node)
  | loop (target : Target) (items : Expression) (condition : Option Expression)
    (body alternative : List Node)
  | assign (target : Target) (value : Expression)
  | capture (target : Target) (filters : List FilterCall) (body : List Node)

end ShaderVariants.Template
