import ShaderVariants.Template.Operation
import ShaderVariants.Template.Scope

/-!
# Evaluating expressions

An expression is evaluated in a scope, which knows the values of names. Operands are evaluated
from the left, and those of `and`, `or`, comparisons and choices only as far as they are needed.
-/

namespace ShaderVariants.Template

namespace Value

/-- A part of a constant real number, whose text has to be a numeral. -/
def rereadReal (value : Float) (suffix : String) : Evaluation Float :=
  if value.isNaN then .error (.unknownName ("nan" ++ suffix))
  else if value.isInf then .error (.unknownName ("inf" ++ suffix))
  else .ok value

/-- A constant complex number, read from its text: the sum or the difference of a real and an
imaginary numeral, or one imaginary numeral with its sign. -/
def rereadComplex (value : Complex) : Evaluation Complex := do
  let re ← rereadReal value.re ""
  let im ← rereadReal value.im "j"
  if re == 0 && !Binary.isNegative re then
    return if Binary.isNegative im then ⟨-0.0, im⟩ else value
  else return ⟨if re == 0 then 0 else re, if im == 0 then 0 else im⟩

mutual

/-- A constant as it is read from its text. Numbers that have no numeral are names there, and
nothing has these names. -/
def reread : Value → Evaluation Value
  | real value => real <$> rereadReal value ""
  | complex value => complex <$> rereadComplex value
  | list items => list <$> rereadAll items
  | tuple items => tuple <$> rereadAll items
  | dictionary entries => dictionary <$> rereadEntries entries
  | value => .ok value

def rereadAll : List Value → Evaluation (List Value)
  | [] => .ok []
  | item :: items => do
    let item ← reread item
    return item :: (← rereadAll items)

def rereadEntries : List (Value × Value) → Evaluation (List (Value × Value))
  | [] => .ok []
  | (key, value) :: entries => do
    let key ← reread key
    let value ← reread value
    return (key, value) :: (← rereadEntries entries)

end

end Value

/-- What a choice without an alternative stands for if its test fails. -/
def missingAlternative (line : Nat) : Value :=
  .missing (s!"the inline if-expression on line {line} evaluated to false and no else section "
    ++ "was defined.")

namespace Expression

mutual

def evaluate (scope : Scope) : Expression → Evaluation Value
  | constant value => value.reread
  | .variable name => .ok (scope.value name)
  | tuple items => Value.tuple <$> evaluateAll scope items
  | list items => Value.list <$> evaluateAll scope items
  | dictionary entries => do Value.ofEntries (← evaluateEntries scope entries)
  | unary operator operand => do Value.applyUnary operator (← evaluate scope operand)
  | binary operator left right => do
    let left ← evaluate scope left
    Value.apply operator left (← evaluate scope right)
  | joined items => do Value.join (← evaluateAll scope items)
  | comparison first others => do
    let value ← evaluate scope first
    Value.bool <$> compareAll scope value others
  | both left right => do
    let value ← evaluate scope left
    if ← value.isTrue then evaluate scope right else return value
  | either left right => do
    let value ← evaluate scope left
    if ← value.isTrue then return value else evaluate scope right
  | choice condition value alternative line => do
    if ← (← evaluate scope condition).isTrue then evaluate scope value
    else evaluateAlternative scope line alternative
  | member owner name => do (← evaluate scope owner).member name
  | element owner index => do
    let owner ← evaluate scope owner
    owner.element (← evaluate scope index)
  | slice owner start stop step => do
    let owner ← evaluate scope owner
    let start ← evaluate scope start
    let stop ← evaluate scope stop
    owner.sliced start stop (← evaluate scope step)
  | call function arguments named => do
    let function ← evaluate scope function
    let arguments ← evaluateAll scope arguments
    function.call arguments (← evaluateNamed scope named)
  | filter name operand arguments named => do
    let value ← evaluate scope operand
    let arguments ← evaluateAll scope arguments
    value.filtered name arguments (← evaluateNamed scope named)
  | test name operand arguments named => do
    let value ← evaluate scope operand
    let arguments ← evaluateAll scope arguments
    Value.bool <$> value.tested name arguments (← evaluateNamed scope named)

def evaluateAll (scope : Scope) : List Expression → Evaluation (List Value)
  | [] => .ok []
  | item :: items => do
    let value ← evaluate scope item
    return value :: (← evaluateAll scope items)

def evaluateEntries (scope : Scope) :
    List (Expression × Expression) → Evaluation (List (Value × Value))
  | [] => .ok []
  | (key, item) :: entries => do
    let key ← evaluate scope key
    let item ← evaluate scope item
    return (key, item) :: (← evaluateEntries scope entries)

/-- The values of named arguments. -/
def evaluateNamed (scope : Scope) : List (String × Expression) → Evaluation (List (String × Value))
  | [] => .ok []
  | (name, item) :: items => do
    let value ← evaluate scope item
    return (name, value) :: (← evaluateNamed scope items)

/-- The relations hold between a value, the first operand, and so on. -/
def compareAll (scope : Scope) (left : Value) : List (Relation × Expression) → Evaluation Bool
  | [] => .ok true
  | (relation, right) :: others => do
    let right ← evaluate scope right
    if ← Value.related relation left right then compareAll scope right others else return false

/-- The value of a choice whose test has failed. -/
def evaluateAlternative (scope : Scope) (line : Nat) : Option Expression → Evaluation Value
  | some alternative => evaluate scope alternative
  | none => .ok (missingAlternative line)

end

end Expression

end ShaderVariants.Template
