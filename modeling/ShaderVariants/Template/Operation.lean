import ShaderVariants.Template.Pattern

/-!
# Operations on template values

Arithmetic, comparison, membership, parts of values, and the functions, filters and tests that a
template may use. Truth values count as one and zero in arithmetic.
-/

namespace ShaderVariants.Template.Value

def number? : Value → Option Number
  | bool true => some (.integer 1)
  | bool false => some (.integer 0)
  | integer value => some (.integer value)
  | real value => some (.real value)
  | complex value => some (.complex value)
  | _ => Option.none

def integer? (value : Value) : Option Int :=
  match value.number? with
  | some (.integer value) => some value
  | _ => Option.none

/-! ## Operators -/

/-- A list some times over; a negative number of times counts as none. -/
def repeated {α : Type} (count : Int) (items : List α) : List α :=
  (List.replicate count.toNat items).flatten

/-- Counts have to be smaller than this. -/
def countLimit : Nat := Nat.pow 2 63

/-- A sequence some times over. -/
def multiplied? (sequence : Value) (count : Int) : Option Value :=
  match sequence with
  | text value => some (text (String.ofList (repeated count value.toList)))
  | list items => some (list (repeated count items))
  | tuple items => some (tuple (repeated count items))
  | _ => Option.none

/-- The value is a text, a list or a tuple. -/
def isSequence (value : Value) : Bool :=
  match value with
  | text _ => true
  | list _ => true
  | tuple _ => true
  | _ => false

/-- The result of an operator on values that are not both numbers, or on numbers that it does not
know. -/
def applyToOthers (operator : BinaryOperator) (left right : Value) : Evaluation Value :=
  let mismatch := .error (.operands operator.spelling left.typeName right.typeName)
  let times := fun (sequence : Value) (count : Int) =>
    if sequence.isSequence && countLimit ≤ count.natAbs then .error (.overflow .count)
    else (sequence.multiplied? count).elim mismatch .ok
  match operator, left, right with
  | .add, text first, text second => .ok (text (first ++ second))
  | .add, list first, list second => .ok (list (first ++ second))
  | .add, tuple first, tuple second => .ok (tuple (first ++ second))
  | .add, left, right =>
    if left.isSequence then .error (.concatenation left.typeName right.typeName) else mismatch
  | .multiply, left, right =>
    match left.integer?, right.integer? with
    | Option.none, some count => times left count
    | some count, _ => times right count
    | _, _ =>
      if left.isSequence then .error (.repetition right.typeName)
      else if right.isSequence then .error (.repetition left.typeName)
      else mismatch
  | _, _, _ => mismatch

/-- The result of a binary operator. A text as the first operand of a remainder is a pattern that
the second one is filled in. -/
def apply (operator : BinaryOperator) (left right : Value) : Evaluation Value := do
  match operator, ← left.defined, right with
  | .modulo, text pattern, right => return text (← Pattern.fill pattern right)
  | operator, left, right =>
    let right ← right.defined
    let sum? := do Number.result? operator (← left.number?) (← right.number?)
    sum?.getD (applyToOthers operator left right)

def applyUnary (operator : UnaryOperator) (value : Value) : Evaluation Value := do
  let value ← value.defined
  match operator, value.number? with
  | .negation, _ => return bool !(← value.isTrue)
  | .negative, some number => return number.negate.toValue
  | .negative, Option.none => throw (.operand "-" value.typeName)
  | .positive, some number => return number.toValue
  | .positive, Option.none => throw (.operand "+" value.typeName)

def join (values : List Value) : Evaluation Value := do
  return text (String.join (← values.mapM asText))

/-! ## Comparison -/

mutual

/-- Both values are equal. A missing value cannot be compared. -/
def equals : Value → Value → Evaluation Bool
  | missing message, _ => .error (.undefined message)
  | _, missing message => .error (.undefined message)
  | none, none => .ok true
  | text left, text right => .ok (left = right)
  | list left, list right =>
    if left.length = right.length then equalsAll left right else .ok false
  | tuple left, tuple right =>
    if left.length = right.length then equalsAll left right else .ok false
  | dictionary left, dictionary right =>
    if left.length = right.length then equalsEntries right left else .ok false
  | range left, range right => .ok (left.agrees right)
  | builtin left, builtin right => .ok (left = right)
  | loop left index, loop right index' =>
    .ok (index = index' ∧ left.length = right.length)
  | left, right =>
    match left.number?, right.number? with
    | some first, some second => .ok (first.equal second)
    | _, _ => .ok false

def equalsAll : List Value → List Value → Evaluation Bool
  | left :: lefts, right :: rights => do
    if ← equals left right then equalsAll lefts rights else return false
  | _, _ => .ok true

/-- Every one of some entries equals one of the others, up to the first difference. -/
def equalsEntries (others : List (Value × Value)) : List (Value × Value) → Evaluation Bool
  | [] => .ok true
  | (key, value) :: entries => do
    match ← others.findM? (fun other => equals key other.1) with
    | some other => if ← equals value other.2 then equalsEntries others entries else return false
    | Option.none => return false

end

/-! ## Dictionaries -/

mutual

/-- Refuses a value that cannot be a key: what may change has no fixed place. -/
def requireKey : Value → Evaluation Unit
  | missing message => .error (.undefined message)
  | list _ => .error (.unhashable "list")
  | dictionary _ => .error (.unhashable "dict")
  | tuple items => requireKeys items
  | _ => .ok ()

def requireKeys : List Value → Evaluation Unit
  | [] => .ok ()
  | item :: items => do
    requireKey item
    requireKeys items

end

def entry? (entries : List (Value × Value)) (key : Value) : Evaluation (Option Value) := do
  key.requireKey
  return (← entries.findM? fun entry => equals key entry.1).map Prod.snd

/-- The entries with a value for a key. A key that is there already keeps its place and its first
spelling. -/
def setEntry (key value : Value) : List (Value × Value) → Evaluation (List (Value × Value))
  | [] => .ok [(key, value)]
  | (other, present) :: entries => do
    if ← equals key other then return (other, value) :: entries
    else return (other, present) :: (← setEntry key value entries)

/-- Adds entries in turn, all of whose keys have to be possible ones. -/
def addEntries (entries added : List (Value × Value)) : Evaluation (List (Value × Value)) :=
  added.foldlM (fun entries (key, value) => do
    key.requireKey
    setEntry key value entries) entries

/-- A dictionary with given entries. -/
def ofEntries (entries : List (Value × Value)) : Evaluation Value :=
  dictionary <$> addEntries [] entries

/-- How two texts compare, by their characters. -/
def compareTexts (left right : String) : Ordering :=
  if left = right then .eq else if left < right then .lt else .gt

mutual

/-- How two values compare if both are of one kind that has an order. Nothing compares with a
number that is no number. -/
def order (relation : Relation) : Value → Value → Evaluation (Option Ordering)
  | missing message, _ => .error (.undefined message)
  | _, missing message => .error (.undefined message)
  | text left, text right => .ok (some (compareTexts left right))
  | list left, list right => orderAll relation left right
  | tuple left, tuple right => orderAll relation left right
  | left, right =>
    let unordered := .error (.ordering relation.spelling left.typeName right.typeName)
    match left.number?, right.number? with
    | some (.complex _), _ => unordered
    | _, some (.complex _) => unordered
    | some first, some second => .ok (first.compare? second)
    | _, _ => unordered

/-- The order of the first items that differ, or else of the lengths. -/
def orderAll (relation : Relation) : List Value → List Value → Evaluation (Option Ordering)
  | [], [] => .ok (some .eq)
  | [], _ => .ok (some .lt)
  | _, [] => .ok (some .gt)
  | left :: lefts, right :: rights => do
    if ← equals left right then orderAll relation lefts rights else order relation left right

end

/-- A list of characters occurs somewhere in another one. -/
def occursIn (part : List Char) : List Char → Bool
  | [] => part.isEmpty
  | c :: rest => part.isPrefixOf (c :: rest) || occursIn part rest

/-- The first of some values equals the given one, or a later one does. -/
def anyEquals (value : Value) : List Value → Evaluation Bool
  | [] => .ok false
  | item :: items => do
    if ← equals item value then return true else anyEquals value items

/-- A progression holds the value. Only numbers equal any of its members, and a missing value can
be compared with none of them. -/
def isMember (members : Progression) (value : Value) : Evaluation Bool :=
  match value with
  | missing message => if members.length = 0 then .ok false else .error (.undefined message)
  | value => .ok ((value.number?.bind Number.integer?).any members.contains)

def holds (container value : Value) : Evaluation Bool :=
  match container, value with
  | missing message, _ => .error (.undefined message)
  | text whole, text part => .ok (occursIn part.toList whole.toList)
  | text _, value => .error (.textContainer value.typeName)
  | list items, value => anyEquals value items
  | tuple items, value => anyEquals value items
  | range members, value => isMember members value
  | dictionary entries, value => (·.isSome) <$> entry? entries value
  | container, _ => .error (.notContainer container.typeName)

/-- The relation holds between two values. -/
def related (relation : Relation) (left right : Value) : Evaluation Bool :=
  match relation with
  | .equal => equals left right
  | .unequal => (!·) <$> equals left right
  | .isIn => right.holds left
  | .notIn => (!·) <$> right.holds left
  | .less => (· == some .lt) <$> order relation left right
  | .lessEqual => (·.any (· != .gt)) <$> order relation left right
  | .greater => (· == some .gt) <$> order relation left right
  | .greaterEqual => (·.any (· != .lt)) <$> order relation left right

/-! ## Parts of values -/

/-- The value for a part that is not there. -/
def noMember (owner : Value) (name : String) : Value :=
  missing (Text.Quoted.encode owner.ownerName ++ " has no attribute " ++ Text.Quoted.encode name)

/-- What the state of a loop tells. -/
def loopMember? (items : List Value) (index : Nat) (name : String) : Option Value :=
  match name with
  | "index" => some (integer (index + 1))
  | "index0" => some (integer index)
  | "revindex" => some (integer (items.length - index : Nat))
  | "revindex0" => some (integer (items.length - index - 1 : Nat))
  | "first" => some (bool (index = 0))
  | "last" => some (bool (index + 1 = items.length))
  | "length" => some (integer items.length)
  | "depth" => some (integer 1)
  | "depth0" => some (integer 0)
  | "previtem" =>
    if index = 0 then some (missing "there is no previous item") else items[index - 1]?
  | "nextitem" => some (items[index + 1]?.getD (missing "there is no next item"))
  | _ => Option.none

/-- What a number tells. Only integers are fractions. -/
def numberMember? (number : Number) (name : String) : Option Value :=
  match number, name with
  | .integer value, "real" => some (integer value)
  | .integer _, "imag" => some (integer 0)
  | .integer value, "numerator" => some (integer value)
  | .integer _, "denominator" => some (integer 1)
  | .real value, "real" => some (real value)
  | .real _, "imag" => some (real 0)
  | .complex value, "real" => some (real value.re)
  | .complex value, "imag" => some (real value.im)
  | _, _ => Option.none

def rangeMember? (members : Progression) (name : String) : Option Value :=
  match name with
  | "start" => some (integer members.start)
  | "stop" => some (integer members.stop)
  | "step" => some (integer members.step)
  | _ => Option.none

/-- A named part of a value. Entries of a dictionary are parts of it. -/
def member (owner : Value) (name : String) : Evaluation Value := do
  let owner ← owner.defined
  let found ←
    match owner with
    | loop items index => pure (loopMember? items index name)
    | range members => pure (rangeMember? members name)
    | dictionary entries => entry? entries (text name)
    | owner => pure (owner.number?.bind fun number => numberMember? number name)
  return found.getD (owner.noMember name)

/-- The item at a place, which a negative number counts from the end. -/
def itemAt? {α : Type} (items : List α) (index : Int) : Option α :=
  if 0 ≤ index then items[index.toNat]?
  else if -index ≤ items.length then items[(items.length + index).toNat]?
  else Option.none

/-- The element of a sequence at a place. -/
def elementAt? (owner : Value) (index : Int) : Option Value :=
  match owner with
  | text value => (itemAt? value.toList index).map fun c => text (String.singleton c)
  | list items => itemAt? items index
  | tuple items => itemAt? items index
  | range members => (members.get? index).map integer
  | _ => Option.none

/-- An element of a sequence, or a part by its name. -/
def element (owner index : Value) : Evaluation Value := do
  match ← owner.defined, index with
  | owner, text name => owner.member name
  | owner, index =>
    let found ←
      match owner, index.requireKey with
      | dictionary _, .error (.undefined message) => throw (.undefined message)
      | dictionary entries, .ok () => entry? entries index
      | owner, _ => pure (index.integer?.bind owner.elementAt?)
    return found.getD (missing (owner.ownerName ++ " has no element " ++ index.written))

/-- A bound of a slice, if one is given. -/
def bound? (value : Value) : Evaluation (Option Int) :=
  match value, value.integer? with
  | none, _ => .ok Option.none
  | _, some index => .ok (some index)
  | _, Option.none => .error .notBound

def selected {α : Type} (items : List α) (places : Progression) : List α :=
  places.toList.filterMap (itemAt? items)

/-- The number of items of a sequence that can be sliced. -/
def length? (owner : Value) : Option Nat :=
  match owner with
  | text value => some value.length
  | list items => some items.length
  | tuple items => some items.length
  | range members => some members.length
  | _ => Option.none

/-- The part of a sequence from one place up to another one, with a step. -/
def sliced (owner start stop step : Value) : Evaluation Value := do
  let owner ← owner.defined
  match owner.length?, owner with
  | Option.none, dictionary _ => throw (.unhashable "slice")
  | Option.none, owner => throw (.notSubscriptable owner.typeName)
  | some length, owner =>
    let step := (← step.bound?).getD 1
    if step = 0 then throw .zeroSliceStep
    let places := Progression.places length (← start.bound?) (← stop.bound?) step
    match owner with
    | text value => return text (String.ofList (selected value.toList places))
    | list items => return list (selected items places)
    | tuple items => return tuple (selected items places)
    | range members => return range (members.select places)
    | owner => return owner

/-! ## Functions, filters and tests -/

def integerArgument (value : Value) : Evaluation Int :=
  match value.integer? with
  | some number => .ok number
  | Option.none => .error (.notInteger value.typeName)

/-- The range from the first argument, or from zero if it is the only one, to the next one, in
steps of the third one. -/
def makeRange (arguments : List Value) : Evaluation Value := do
  match arguments with
  | [] => throw (.arguments (.tooFew "range"))
  | [stop] => return range ⟨0, ← stop.integerArgument, 1⟩
  | [start, stop] => return range ⟨← start.integerArgument, ← stop.integerArgument, 1⟩
  | [start, stop, step] =>
    let start ← start.integerArgument
    let stop ← stop.integerArgument
    let step ← step.integerArgument
    if step = 0 then throw .zeroStep
    return range ⟨start, stop, step⟩
  | arguments => throw (.arguments (.tooMany "range" 3 arguments.length))

/-- The key and the value that a member of an argument stands for. -/
def pairOf (index : Nat) (value : Value) : Evaluation (Value × Value) := do
  match ← value.members? with
  | some [key, value] => return (key, value)
  | some items => throw (.arguments (.wrongPair "dictionary" index items.length))
  | Option.none => throw (.arguments (.noPair "dictionary" index))

/-- A dictionary with the entries of another one, or with pairs of keys and values, and with named
values. -/
def makeDictionary (arguments : List Value) (named : List (String × Value)) : Evaluation Value := do
  let entries ←
    match arguments with
    | [] => pure []
    | [dictionary entries] => pure entries
    | [value] => (← value.members).zipIdx.mapM fun (member, index) => pairOf index member
    | arguments => throw (.arguments (.tooMany "dict" 1 arguments.length))
  let entries ← addEntries [] entries
  dictionary <$> addEntries entries (named.map fun (name, value) => (text name, value))

def call (function : Value) (arguments : List Value) (named : List (String × Value)) :
    Evaluation Value := do
  match ← function.defined with
  | builtin .rangeType =>
    if named.isEmpty then makeRange arguments else throw (.arguments (.named "range"))
  | builtin .dictionaryType => makeDictionary arguments named
  | value => throw (.notCallable value.typeName)

/-- What a filter or a test is called and which arguments it takes. The first argument is the
value itself; those that need not be given have a default value. -/
structure Signature where
  name : String
  required : List String
  optional : List (String × Value)

namespace Signature

/-- All parameters in their order. -/
def parameters (signature : Signature) : List String :=
  signature.required ++ signature.optional.map Prod.fst

/-- The first of the named arguments that there is no place for, if there is one. -/
def misnamed? (signature : Signature) (given : Nat) (names : List String) : Option ArgumentFault :=
  names.findSome? fun name =>
    match signature.parameters.idxOf? name with
    | Option.none => some (.unexpected signature.name name)
    | some place => if place < given then some (.repeated signature.name name) else Option.none

/-- The values of the parameters that need not be given. -/
def bind (signature : Signature) (arguments : List Value) (named : List (String × Value)) :
    Evaluation (List Value) := do
  let given := arguments.length + 1
  if let some fault := signature.misnamed? given (named.map Prod.fst) then
    throw (.arguments fault)
  let most := signature.parameters.length
  if most < given then
    throw (.arguments (.surplus signature.name signature.required.length most given))
  return signature.optional.zipIdx.map fun ((name, usual), index) =>
    (arguments[index]? <|> (named.find? (·.1 == name)).map Prod.snd).getD usual

end Signature

/-- The filters and what they are called by their names. -/
def filterSignature? (name : String) : Option Signature :=
  match name with
  | "default" =>
    some ⟨"do_default", ["value"], [("default_value", text ""), ("boolean", bool false)]⟩
  | "d" => some ⟨"do_default", ["value"], [("default_value", text ""), ("boolean", bool false)]⟩
  | "list" => some ⟨"do_list", ["value"], []⟩
  | _ => Option.none

/-- The tests and what they are called by their names. -/
def testSignature? (name : String) : Option Signature :=
  if name ∈ ["defined", "undefined", "odd", "even"] then some ⟨s!"test_{name}", ["value"], []⟩
  else Option.none

/-- The value, or another one where it is missing or, if that is asked for, counts as false. -/
def orDefault (value fallback onFalse : Value) : Evaluation Value :=
  match value with
  | missing _ => .ok fallback
  | value => do
    if ← onFalse.isTrue then
      if ← value.isTrue then return value else return fallback
    else return value

def filtered (name : String) (value : Value) (arguments : List Value)
    (named : List (String × Value)) : Evaluation Value := do
  match filterSignature? name with
  | Option.none => throw (.unknownFilter name)
  | some signature =>
    match ← signature.bind arguments named with
    | [fallback, onFalse] => value.orDefault fallback onFalse
    | _ => return list (← value.members)

/-- A remainder of two as it is asked for by `odd` and `even`. -/
def remainderOfTwo (value : Value) (remainder : Int) : Evaluation Bool := do
  (← apply .modulo value (integer 2)).equals (integer remainder)

/-- The value is not missing. -/
def isDefined : Value → Bool
  | missing _ => false
  | _ => true

def tested (name : String) (value : Value) (arguments : List Value)
    (named : List (String × Value)) : Evaluation Bool := do
  match testSignature? name with
  | Option.none => throw (.unknownTest name)
  | some signature =>
    let _ ← signature.bind arguments named
    match name with
    | "defined" => return value.isDefined
    | "undefined" => return !value.isDefined
    | "odd" => value.remainderOfTwo 1
    | _ => value.remainderOfTwo 0

end ShaderVariants.Template.Value
