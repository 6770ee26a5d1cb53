import ShaderVariants.Template.Operation

/-!
# Constant expressions

An expression that reads no names may have a value before the template is expanded. Where it has
one, the value takes the place of the expression. Operations that fail have no such value and are
left to be evaluated; only joining texts, and asking whether a constant counts as true, fail at
once.
-/

namespace ShaderVariants.Template

namespace Value

mutual

/-- A value that may stand in a template as a constant. -/
def isPlain : Value → Bool
  | list items => arePlain items
  | tuple items => arePlain items
  | dictionary entries => havePlain entries
  | builtin _ => false
  | loop _ _ => false
  | missing _ => false
  | _ => true

def arePlain : List Value → Bool
  | [] => true
  | item :: items => isPlain item && arePlain items

def havePlain : List (Value × Value) → Bool
  | [] => true
  | (key, value) :: entries => isPlain key && isPlain value && havePlain entries

end

end Value

/-- A constant value, if there is one. -/
abbrev Folding (α : Type) := OptionT Evaluation α

namespace Folding

variable {α : Type}

/-- There is no constant value. -/
def impossible : Folding α := failure

/-- A result that counts only if there is no fault. -/
def attempt (folding : Folding α) : Folding α :=
  match folding.run with
  | .ok found => OptionT.mk (.ok found)
  | .error _ => impossible

/-- The outcome of an operation that counts only if there is no fault. -/
def ofOutcome (outcome : Evaluation α) : Folding α := attempt (OptionT.lift outcome)

end Folding

namespace Expression

mutual

def constantValue : Expression → Folding Value
  | constant value => return value
  | .variable _ => Folding.impossible
  | call _ _ _ => Folding.impossible
  | tuple items => Value.tuple <$> constantValues items
  | list items => Value.list <$> constantValues items
  | dictionary entries => do OptionT.lift (Value.ofEntries (← constantEntries entries))
  | unary operator operand => Folding.attempt do
    Folding.ofOutcome (Value.applyUnary operator (← constantValue operand))
  | binary operator left right => Folding.attempt do
    let left ← constantValue left
    Folding.ofOutcome (Value.apply operator left (← constantValue right))
  | joined items => do OptionT.lift (Value.join (← constantValues items))
  | comparison first others => do
    let value ← constantValue first
    Value.bool <$> Folding.attempt (constantComparison value others)
  | both left right => do
    let value ← constantValue left
    if ← OptionT.lift value.isTrue then constantValue right else return value
  | either left right => do
    let value ← constantValue left
    if ← OptionT.lift value.isTrue then return value else constantValue right
  | choice condition value alternative _ => do
    if ← OptionT.lift (← constantValue condition).isTrue then constantValue value
    else constantAlternative alternative
  | member owner name => Folding.attempt do
    Folding.ofOutcome ((← constantValue owner).member name)
  | element owner index => Folding.attempt do
    let owner ← constantValue owner
    Folding.ofOutcome (owner.element (← constantValue index))
  | slice owner start stop step => Folding.attempt do
    let owner ← constantValue owner
    let start ← constantValue start
    let stop ← constantValue stop
    Folding.ofOutcome (owner.sliced start stop (← constantValue step))
  | filter name operand arguments named => do
    if (Value.filterSignature? name).isNone then Folding.impossible
    else
      let arguments ← constantValues arguments
      let named ← constantNamed named
      Folding.ofOutcome ((← constantValue operand).filtered name arguments named)
  | test name operand arguments named => do
    if (Value.testSignature? name).isNone then Folding.impossible
    else
      let arguments ← constantValues arguments
      let named ← constantNamed named
      Value.bool <$> Folding.ofOutcome ((← constantValue operand).tested name arguments named)

def constantValues : List Expression → Folding (List Value)
  | [] => return []
  | item :: items => do
    let value ← constantValue item
    return value :: (← constantValues items)

def constantEntries : List (Expression × Expression) → Folding (List (Value × Value))
  | [] => return []
  | (key, item) :: entries => do
    let key ← constantValue key
    let item ← constantValue item
    return (key, item) :: (← constantEntries entries)

def constantNamed : List (String × Expression) → Folding (List (String × Value))
  | [] => return []
  | (name, item) :: items => do
    let value ← constantValue item
    return (name, value) :: (← constantNamed items)

/-- The outcome of the relations between constants, as far as they have to be looked at. -/
def constantComparison (left : Value) : List (Relation × Expression) → Folding Bool
  | [] => return true
  | (relation, right) :: others => do
    let right ← constantValue right
    if ← OptionT.lift (Value.related relation left right) then constantComparison right others
    else return false

/-- The constant value of an alternative. Without one there is no value. -/
def constantAlternative : Option Expression → Folding Value
  | some alternative => constantValue alternative
  | none => Folding.impossible

end

/-- The constant that an expression is, or else the expression itself. -/
def condensed (expression : Expression) : Evaluation Expression := do
  match ← (constantValue expression).run with
  | some value => return if value.isPlain then constant value else expression
  | none => return expression

mutual

/-- An expression whose constant parts are constants, the inner ones first. -/
def folded : Expression → Evaluation Expression
  | constant value => .ok (constant value)
  | .variable name => .ok (.variable name)
  | tuple items => do condensed (tuple (← foldedAll items))
  | list items => do condensed (list (← foldedAll items))
  | dictionary entries => do condensed (dictionary (← foldedEntries entries))
  | unary operator operand => do condensed (unary operator (← folded operand))
  | binary operator left right => do
    let left ← folded left
    condensed (binary operator left (← folded right))
  | joined items => do condensed (joined (← foldedAll items))
  | comparison first others => do
    let first ← folded first
    condensed (comparison first (← foldedOthers others))
  | both left right => do
    let left ← folded left
    condensed (both left (← folded right))
  | either left right => do
    let left ← folded left
    condensed (either left (← folded right))
  | choice condition value alternative line => do
    let condition ← folded condition
    let value ← folded value
    condensed (choice condition value (← foldedAlternative alternative) line)
  | member owner name => do condensed (member (← folded owner) name)
  | element owner index => do
    let owner ← folded owner
    condensed (element owner (← folded index))
  | slice owner start stop step => do
    let owner ← folded owner
    let start ← folded start
    let stop ← folded stop
    condensed (slice owner start stop (← folded step))
  | call function arguments named => do
    let function ← folded function
    let arguments ← foldedAll arguments
    return call function arguments (← foldedNamed named)
  | filter name operand arguments named => do
    let operand ← folded operand
    let arguments ← foldedAll arguments
    condensed (filter name operand arguments (← foldedNamed named))
  | test name operand arguments named => do
    let operand ← folded operand
    let arguments ← foldedAll arguments
    condensed (test name operand arguments (← foldedNamed named))

def foldedAll : List Expression → Evaluation (List Expression)
  | [] => .ok []
  | item :: items => do
    let item ← folded item
    return item :: (← foldedAll items)

def foldedEntries :
    List (Expression × Expression) → Evaluation (List (Expression × Expression))
  | [] => .ok []
  | (key, item) :: entries => do
    let key ← folded key
    let item ← folded item
    return (key, item) :: (← foldedEntries entries)

def foldedNamed : List (String × Expression) → Evaluation (List (String × Expression))
  | [] => .ok []
  | (name, item) :: items => do
    let item ← folded item
    return (name, item) :: (← foldedNamed items)

/-- Counterpart of `folded` for the further operands of a comparison. -/
def foldedOthers : List (Relation × Expression) → Evaluation (List (Relation × Expression))
  | [] => .ok []
  | (relation, item) :: items => do
    let item ← folded item
    return (relation, item) :: (← foldedOthers items)

def foldedAlternative : Option Expression → Evaluation (Option Expression)
  | some alternative => some <$> folded alternative
  | none => .ok none

end

end Expression

end ShaderVariants.Template
