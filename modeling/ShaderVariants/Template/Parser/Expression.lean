import ShaderVariants.Template.Expression
import ShaderVariants.Template.Parser.Basic

/-!
# Parsing expressions

One parser per level of precedence, from operands to choices. What stands inside of brackets is
an expression again; each level is given the parser for that, and at last the knot is tied with a
bound on the depth.
-/

namespace ShaderVariants.Template.Parser

/-- A list of operands from the left, each with the operator in front of it. -/
def chain (operator? : Parser (Option BinaryOperator)) (operand : Parser Expression) :
    Parser Expression := do
  iterate (fun left => do
    match ← operator? with
    | none => return none
    | some operator => return some (.binary operator left (← operand))) (← operand)

def operatorOf (operators : List (Sign × BinaryOperator)) : Parser (Option BinaryOperator) := do
  match ← current? with
  | some (.sign found) =>
    match operators.find? (·.1 = found) with
    | some (_, operator) => advance; return some operator
    | none => return none
  | _ => return none

/-- What comes first ends a list of items without brackets. -/
def isTupleEnd (words : List String) : Parser Bool := do
  match ← current? with
  | some .printEnd => return true
  | some .statementEnd => return true
  | some (.sign .rightParen) => return true
  | some (.name word) => return word ∈ words
  | _ => return false

/-- One item, or several ones that commas separate and that make one of another kind. Only inside
of parentheses there may be no item at all. -/
def several {α : Type} (ofItems : List α → α) (item : Parser α) (parenthesized : Bool)
    (endWords : List String) : Parser α := do
  if ← isTupleEnd endWords then
    if parenthesized then return ofItems []
    else fail (.noExpression (← currentDescription))
  let first ← item
  let (items, isTuple) ← iterate (fun (items, _) => do
    if !(← skipSign .comma) then return none
    if ← isTupleEnd endWords then return some (items, true)
    return some ((← item) :: items, true)) ([first], false)
  return if isTuple then ofItems items.reverse else first

/-- One item, or several ones that make a tuple. -/
def tuple : Parser Expression → Bool → List String → Parser Expression := several .tuple

/-- Items that commas separate, up to and with a closing bracket. -/
def bracketed {α : Type} (closing : Sign) (item : Parser α) : Parser (List α) := do
  let items ← iterate (fun items => do
    if ← isSign closing then return none
    if !items.isEmpty then
      expectSign .comma
      if ← isSign closing then return none
    return some ((← item) :: items)) []
  expectSign closing
  return items.reverse

def entry (nested : Parser Expression) : Parser (Expression × Expression) := do
  let key ← nested
  expectSign .colon
  return (key, ← nested)

/-- The string that begins here. Strings in a row are one. -/
def strings (first : String) : Parser Expression := do
  advance
  let text ← iterate (fun text => do
    match ← current? with
    | some (.text more) => advance; return some (text ++ more)
    | _ => return none) first
  return .constant (.text text)

/-- The constant or variable of a name. -/
def ofName (word : String) : Expression :=
  if word = "true" ∨ word = "True" then .constant (.bool true)
  else if word = "false" ∨ word = "False" then .constant (.bool false)
  else if word = "none" ∨ word = "None" then .constant .none
  else .variable word

/-- A constant, a variable, or an expression in brackets. -/
def primary (nested : Parser Expression) : Parser Expression := do
  match ← current? with
  | some (.name word) => advance; return ofName word
  | some (.text first) => strings first
  | some (.integer value) => advance; return .constant (.integer value)
  | some (.real value) => advance; return .constant (.real value)
  | some (.sign .leftParen) =>
    advance
    let inner ← tuple nested true []
    expectSign .rightParen
    return inner
  | some (.sign .leftBracket) =>
    advance
    return .list (← bracketed .rightBracket nested)
  | some (.sign .leftBrace) =>
    advance
    return .dictionary (← bracketed .rightBrace (entry nested))
  | _ => fail (.noOperand (← currentDescription))

/-- Arguments in parentheses: the positional ones, and behind them the named ones. -/
def arguments (nested : Parser Expression) :
    Parser (List Expression × List (String × Expression)) := do
  expectSign .leftParen
  let (positional, named) ← iterate (fun (positional, named) => do
    if ← isSign .rightParen then return none
    if !(positional.isEmpty && named.isEmpty) then
      expectSign .comma
      if ← isSign .rightParen then return none
    match ← current? with
    | some (.name word) =>
      if let some (.sign .assign) ← following? then
        advance
        advance
        return some (positional, (word, ← nested) :: named)
    | _ => pure ()
    if !named.isEmpty then fail .badArguments
    return some ((← nested) :: positional, named)) ([], [])
  expectSign .rightParen
  return (positional.reverse, named.reverse)

/-- What stands in brackets behind an operand: an index, or the bounds of a slice. -/
inductive Subscript where
  | index (value : Expression)
  | slice (start stop step : Expression)

/-- A bound of a slice, which need not be given. -/
def bound (nested : Parser Expression) : Parser Expression := do
  if ← isSign .colon then return .constant .none
  if ← isSign .rightBracket then return .constant .none
  if ← isSign .comma then return .constant .none
  nested

def subscript (nested : Parser Expression) : Parser Subscript := do
  let start ← if ← isSign .colon then pure (.constant .none) else nested
  if !(← skipSign .colon) then return .index start
  let stop ← bound nested
  let step ← if ← skipSign .colon then bound nested else pure (.constant .none)
  return .slice start stop step

/-- Subscripts that commas separate, up to and with the closing bracket. Behind a comma there has
to be one. -/
def subscripts (nested : Parser Expression) : Parser (List Subscript) := do
  let read ← iterate (fun read => do
    if ← isSign .rightBracket then return none
    if !read.isEmpty then expectSign .comma
    return some ((← subscript nested) :: read)) []
  expectSign .rightBracket
  return read.reverse

def Subscript.index? : Subscript → Option Expression
  | index value => some value
  | slice _ _ _ => none

/-- The part of an operand that subscripts say. Several of them are one index. -/
def subscripted (operand : Expression) : List Subscript → Parser Expression
  | [.index value] => return .element operand value
  | [.slice start stop step] => return .slice operand start stop step
  | subscripts =>
    match subscripts.mapM Subscript.index? with
    | some indices => return .element operand (.tuple indices)
    | none => fail .nestedSlice

/-- Attributes, elements and calls behind an operand. -/
def postfixes (nested : Parser Expression) (operand : Expression) : Parser Expression :=
  iterate (fun operand => do
    match ← current? with
    | some (.sign .dot) =>
      advance
      match ← current? with
      | some (.name word) => advance; return some (.member operand word)
      | some (.integer value) =>
        advance
        return some (.element operand (.constant (.integer value)))
      | some _ => advance; fail .noAttribute
      | none => fail .noAttribute
    | some (.sign .leftBracket) =>
      advance
      return some (← subscripted operand (← subscripts nested))
    | some (.sign .leftParen) =>
      let (positional, named) ← arguments nested
      return some (.call operand positional named)
    | _ => return none) operand

/-- A name with further ones behind dots. -/
def dottedName : Parser String := do
  iterate (fun name => do
    if ← skipSign .dot then return some (name ++ "." ++ (← expectName)) else return none)
    (← expectName)

/-- The argument of a test, which needs no parentheses if it is one operand. -/
def testArguments (nested : Parser Expression) :
    Parser (List Expression × List (String × Expression)) := do
  let operand : Parser (List Expression × List (String × Expression)) := do
    return ([← postfixes nested (← primary nested)], [])
  match ← current? with
  | some (.sign .leftParen) => arguments nested
  | some (.name word) =>
    if word ∈ ["else", "or", "and"] then return ([], [])
    if word = "is" then fail .chainedTests
    operand
  | some (.text _) => operand
  | some (.integer _) => operand
  | some (.real _) => operand
  | some (.sign .leftBracket) => operand
  | some (.sign .leftBrace) => operand
  | _ => return ([], [])

/-- The filter that begins here, without what it is applied to. -/
def filterCall (nested : Parser Expression) : Parser FilterCall := do
  expectSign .pipe
  let name ← dottedName
  let (positional, named) ← if ← isSign .leftParen then arguments nested else pure ([], [])
  return ⟨name, positional, named⟩

/-- Filters, tests and calls behind an operand. -/
def applications (nested : Parser Expression) (operand : Expression) : Parser Expression :=
  iterate (fun operand => do
    match ← current? with
    | some (.sign .pipe) => return some ((← filterCall nested).on operand)
    | some (.name "is") =>
      advance
      let negated ← skipName "not"
      let name ← dottedName
      let (positional, named) ← testArguments nested
      let test := Expression.test name operand positional named
      return some (if negated then .unary .negation test else test)
    | some (.sign .leftParen) =>
      let (positional, named) ← arguments nested
      return some (.call operand positional named)
    | _ => return none) operand

/-- An operand with what stands before and behind it. -/
def signed (nested : Parser Expression) : Parser Expression := do
  let signs ← iterate (fun signs => do
    if ← skipSign .minus then return some (UnaryOperator.negative :: signs)
    else if ← skipSign .plus then return some (.positive :: signs)
    else return none) []
  let operand ← postfixes nested (← primary nested)
  applications nested (signs.foldl (fun operand sign => .unary sign operand) operand)

/-- Powers, from left to right. -/
def powers (nested : Parser Expression) : Parser Expression :=
  chain (operatorOf [(.power, .power)]) (signed nested)

def products (nested : Parser Expression) : Parser Expression :=
  chain (operatorOf [(.times, .multiply), (.divide, .divide), (.floorDivide, .floorDivide),
    (.modulo, .modulo)]) (powers nested)

def joined (nested : Parser Expression) : Parser Expression := do
  let first ← products nested
  let others ← iterate (fun others => do
    if ← skipSign .tilde then return some ((← products nested) :: others) else return none) []
  return if others.isEmpty then first else .joined (first :: others.reverse)

def sums (nested : Parser Expression) : Parser Expression :=
  chain (operatorOf [(.plus, .add), (.minus, .subtract)]) (joined nested)

def relationOf? : Sign → Option Relation
  | .equal => some .equal
  | .unequal => some .unequal
  | .less => some .less
  | .lessEqual => some .lessEqual
  | .greater => some .greater
  | .greaterEqual => some .greaterEqual
  | _ => none

def relation? : Parser (Option Relation) := do
  match ← current? with
  | some (.sign sign) =>
    match relationOf? sign with
    | some relation => advance; return some relation
    | none => return none
  | some (.name "in") => advance; return some .isIn
  | some (.name "not") =>
    match ← following? with
    | some (.name "in") => advance; advance; return some .notIn
    | _ => return none
  | _ => return none

def comparisons (nested : Parser Expression) : Parser Expression := do
  let first ← sums nested
  let others ← iterate (fun others => do
    match ← relation? with
    | none => return none
    | some relation => return some ((relation, ← sums nested) :: others)) []
  return if others.isEmpty then first else .comparison first others.reverse

def negations (nested : Parser Expression) : Parser Expression := do
  let count ← iterate (fun count => do
    if ← skipName "not" then return some (count + 1) else return none) 0
  let operand ← comparisons nested
  return (List.range count).foldl (fun operand _ => .unary .negation operand) operand

/-- Operands that all have to be true. -/
def conjunctions (nested : Parser Expression) : Parser Expression := do
  iterate (fun left => do
    if ← skipName "and" then return some (.both left (← negations nested)) else return none)
    (← negations nested)

/-- Operands of which one has to be true. -/
def disjunctions (nested : Parser Expression) : Parser Expression := do
  iterate (fun left => do
    if ← skipName "or" then return some (.either left (← conjunctions nested)) else return none)
    (← conjunctions nested)

/-- Choices: a value, the test behind it, and the alternative. -/
def choices (nested : Parser Expression) : Parser Expression := do
  let line ← currentLine
  let (value, _) ← iterate (fun (value, line) => do
    if !(← skipName "if") then return none
    let test ← disjunctions nested
    let alternative ← if ← skipName "else" then some <$> nested else pure none
    return some (.choice test value alternative line, ← currentLine))
    (← disjunctions nested, line)
  return value

/-- An expression of a limited depth. -/
def expressionWithin : Nat → Parser Expression
  | 0 => fail .tooDeep
  | depth + 1 => choices (expressionWithin depth)

/-- Greatest depth of expressions inside of each other. -/
def greatestDepth : Nat := 75

def expression : Parser Expression := expressionWithin greatestDepth

/-- An expression that is no choice unless in brackets. -/
def condition : Parser Expression := disjunctions (expressionWithin (greatestDepth - 1))

end ShaderVariants.Template.Parser
