import ShaderVariants.Complex
import ShaderVariants.Decimal.Written
import ShaderVariants.Progression
import ShaderVariants.Template.Fault
import ShaderVariants.Text.Quoted

/-!
# Values of template expressions

What an expression may stand for, and what can be said of every value: its type, its truth, its
texts and its members. A variable without a definition is a value of its own: only using it is a
fault.
-/

namespace ShaderVariants.Template

/-- What stands in every template under a name of its own. -/
inductive Builtin where
  | rangeType
  | dictionaryType
  | filler
  | cyclerType
  | joinerType
  | namespaceType
  | template
  deriving DecidableEq, Repr

namespace Builtin

/-- The names that every template knows. -/
def globals : List (String × Builtin) := [
    ("range", rangeType), ("dict", dictionaryType), ("lipsum", filler), ("cycler", cyclerType),
    ("joiner", joinerType), ("namespace", namespaceType)]

/-- The type of a built-in value. -/
def typeName : Builtin → String
  | filler => "function"
  | template => "TemplateReference"
  | _ => "type"

/-- A built-in value as it is written. -/
def written : Builtin → String
  | rangeType => "<class 'range'>"
  | dictionaryType => "<class 'dict'>"
  | filler => "<function generate_lorem_ipsum>"
  | cyclerType => "<class 'jinja2.utils.Cycler'>"
  | joinerType => "<class 'jinja2.utils.Joiner'>"
  | namespaceType => "<class 'jinja2.utils.Namespace'>"
  | template => "<TemplateReference None>"

end Builtin

/-- What an expression stands for. The state of a loop knows all items of the loop and the number
of rounds before the present one. -/
inductive Value where
  | none
  | bool (value : Bool)
  | integer (value : Int)
  | real (value : Float)
  | complex (value : Complex)
  | text (value : String)
  | list (items : List Value)
  | tuple (items : List Value)
  | dictionary (entries : List (Value × Value))
  | range (members : Progression)
  | builtin (which : Builtin)
  | loop (items : List Value) (index : Nat)
  | missing (message : String)

namespace Value

def typeName : Value → String
  | none => "NoneType"
  | bool _ => "bool"
  | integer _ => "int"
  | real _ => "float"
  | complex _ => "complex"
  | text _ => "str"
  | list _ => "list"
  | tuple _ => "tuple"
  | dictionary _ => "dict"
  | range _ => "range"
  | builtin which => which.typeName
  | loop _ _ => "LoopContext"
  | missing _ => "StrictUndefined"

/-- What a message about a missing part calls the owner. -/
def ownerName : Value → String
  | none => "None"
  | builtin .template => "jinja2.runtime.TemplateReference object"
  | loop _ _ => "jinja2.runtime.LoopContext object"
  | value => value.typeName ++ " object"

/-- Refuses a missing value. -/
def defined (value : Value) : Evaluation Value :=
  match value with
  | missing message => .error (.undefined message)
  | value => .ok value

def rangeText (members : Progression) : String :=
  let ⟨start, stop, step⟩ := members
  if step = 1 then s!"range({start}, {stop})" else s!"range({start}, {stop}, {step})"

/-- A truth value as part of a list. -/
def boolText : Bool → String
  | true => "True"
  | false => "False"

mutual

def written : Value → String
  | none => "None"
  | bool value => boolText value
  | integer value => toString value
  | real value => writtenReal value
  | complex value => value.written
  | text value => Text.Quoted.encode value
  | list items => "[" ++ String.intercalate ", " (writtenAll items) ++ "]"
  | tuple items =>
    match writtenAll items with
    | [item] => "(" ++ item ++ ",)"
    | items => "(" ++ String.intercalate ", " items ++ ")"
  | dictionary entries => "\x7b" ++ String.intercalate ", " (writtenEntries entries) ++ "\x7d"
  | range members => rangeText members
  | builtin which => which.written
  | loop items index => s!"<LoopContext {index + 1}/{items.length}>"
  | missing _ => "Undefined"

def writtenAll : List Value → List String
  | [] => []
  | item :: items => written item :: writtenAll items

def writtenEntries : List (Value × Value) → List String
  | [] => []
  | (key, value) :: entries => (written key ++ ": " ++ written value) :: writtenEntries entries

end

mutual

/-- No integer of a value has too many digits to be written. -/
def isWritable : Value → Bool
  | integer value => !Decimal.exceedsWriting value
  | list items => areWritable items
  | tuple items => areWritable items
  | dictionary entries => haveWritable entries
  | range members =>
    [members.start, members.stop, members.step].all fun bound => !Decimal.exceedsWriting bound
  | _ => true

def areWritable : List Value → Bool
  | [] => true
  | item :: items => isWritable item && areWritable items

def haveWritable : List (Value × Value) → Bool
  | [] => true
  | (key, value) :: entries => isWritable key && isWritable value && haveWritable entries

end

/-- A value as it is written inside of a list, if that is possible. -/
def asWritten (value : Value) : Evaluation String :=
  if value.isWritable then .ok value.written else .error .oversizedInteger

def asText (value : Value) : Evaluation String :=
  match value with
  | text value => .ok value
  | missing message => .error (.undefined message)
  | value => value.asWritten

/-- A value as it is printed: the text of what comes of it at last. -/
def printed (finalize : Value → Value) (value : Value) : Evaluation String :=
  (finalize value).asText

/-- A value counts as true, as far as that can be said of it. -/
def isTrue (value : Value) : Evaluation Bool :=
  match value with
  | none => .ok false
  | bool value => .ok value
  | integer value => .ok (value ≠ 0)
  | real value => .ok (value != 0)
  | complex value => .ok !value.isZero
  | text value => .ok (value ≠ "")
  | list items => .ok !items.isEmpty
  | tuple items => .ok !items.isEmpty
  | dictionary entries => .ok !entries.isEmpty
  | range members => .ok (members.length ≠ 0)
  | builtin _ => .ok true
  | loop _ _ => .ok true
  | missing message => .error (.undefined message)

/-- The values that a loop over a value goes through, if there are any. -/
def members? (value : Value) : Evaluation (Option (List Value)) :=
  match value with
  | text value => .ok (some (value.toList.map fun c => text (String.singleton c)))
  | list items => .ok (some items)
  | tuple items => .ok (some items)
  | dictionary entries => .ok (some (entries.map Prod.fst))
  | range members => .ok (some (members.toList.map integer))
  | missing message => .error (.undefined message)
  | _ => .ok Option.none

/-- The values that a loop over a value goes through. -/
def members (value : Value) : Evaluation (List Value) := do
  match ← value.members? with
  | some items => return items
  | Option.none => throw (.notIterable value.typeName)

/-- As many members of a value as wanted, no more and no less. -/
def unpacked (value : Value) (wanted : Nat) : Evaluation (List Value) := do
  match ← value.members? with
  | some items =>
    if items.length < wanted then throw (.tooFewItems wanted items.length)
    if wanted < items.length then throw (.tooManyItems wanted)
    return items
  | Option.none => throw (.notUnpackable value.typeName)

end Value

end ShaderVariants.Template
