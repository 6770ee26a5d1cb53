import ShaderVariants.Toml.Moment
import ShaderVariants.Toml.Namespace
import ShaderVariants.Toml.Numeral
import ShaderVariants.Toml.Table
import ShaderVariants.Toml.Text

/-!
# Values of TOML

A value is a text, a truth value, an array, an inline table, a moment or a number. Arrays and
inline tables hold values again; the readers for them are given the reader for those, and at last
the knot is tied with a bound on the depth, for which the number of characters is enough.
-/

namespace ShaderVariants.Toml.Reader

/-- Takes what a pattern fits, if it does. -/
def match? {α : Type} (pattern : Pattern α) : Reader (Option α) := do
  match pattern (← get) with
  | none => return none
  | some (value, rest) =>
    set rest
    return some value

/-- Stops if there is a problem. -/
def check {α : Type} : Except Problem α → Reader α
  | .ok value => return value
  | .error problem => fail problem

/-- A moment, if one comes next. -/
def moment? : Reader (Option Datum) := do
  let start ← get
  match ← match? (Pattern.withText Pattern.dateWithTime) with
  | some ((date, moment), text) =>
    if date.isValid then return some (.moment moment (String.ofList text))
    set start
    fail .noMoment
  | none =>
    match ← match? (Pattern.withText Pattern.time) with
    | some (_, text) => return some (.moment .time (String.ofList text))
    | none => return none

/-- A number, if one comes next. -/
def number? : Reader (Option Datum) := do
  match ← match? Pattern.numeral with
  | some value => return some (← check value)
  | none => match? Pattern.special

/-- A truth value, if one comes next. -/
def bool? : Reader (Option Datum) := do
  if ← skipText "true" then return some (.bool true)
  if ← skipText "false" then return some (.bool false)
  return none

/-- The rest of an array, behind its opening bracket. -/
def array (value : Reader Datum) : Reader Datum := do
  skip 1
  skipGap
  let reversed ← iterate (fun reversed => do
    if ← isAt "]" then return none
    let item ← value
    skipGap
    if !(← isAt "]") then
      if !(← skipText ",") then fail .unclosedArray
      skipGap
    return some (item :: reversed)) []
  skip 1
  return .list reversed.reverse

def entry (value : Reader Datum) : Reader (Key × Datum) := do
  let name ← key
  if !(← skipText "=") then fail .noEquals
  skipSpaces
  return (name, ← value)

def setInline (namespaces : Namespaces) (name : Key) (value : Datum) (table : Table) :
    Except Problem Table :=
  if namespaces.isImmutable name then .error (.immutable name)
  else
    let (parents, part) := splitKey name
    table.change false (Table.insertNew (.repeatedInlineKey part) part value) parents

/-- An inline table from its opening brace on. Behind each comma there must be an entry. -/
def inlineTable (value : Reader Datum) : Reader Datum := do
  skip 1
  skipSpaces
  if ← skipText "\x7d" then return .table []
  let (table, _, _) ← iterate (fun (table, namespaces, isClosed) => do
    if isClosed then return none
    let (name, value) ← entry value
    let table ← check (setInline namespaces name value table)
    skipSpaces
    if ← skipText "\x7d" then return some (table, namespaces, true)
    if !(← skipText ",") then fail .unclosedInlineTable
    skipSpaces
    let namespaces := if value.isContainer then namespaces.freeze name else namespaces
    return some (table, namespaces, false)) (([] : Table), Namespaces.empty, false)
  return .table table

def text (mark : String) : Reader Datum := do
  if ← isAt (mark ++ mark ++ mark) then return .text (← longText mark)
  else if mark = "'" then return .text (← literalText)
  else return .text (← quotedText)

/-- A value, given how those inside of it are read. -/
def valueOver (nested : Reader Datum) : Reader Datum := do
  match ← peek? with
  | some '"' => text "\""
  | some '\'' => text "'"
  | some '[' => array nested
  | some '\x7b' => inlineTable nested
  | _ =>
    if let some datum ← bool? then return datum
    if let some datum ← moment? then return datum
    if let some datum ← number? then return datum
    fail .noValue

/-- A value of limited depth. -/
def valueWithin : Nat → Reader Datum
  | 0 => fail .noValue
  | depth + 1 => valueOver (valueWithin depth)

def value : Reader Datum := do valueWithin ((← get).length + 1)

end ShaderVariants.Toml.Reader
