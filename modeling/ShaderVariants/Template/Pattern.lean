import ShaderVariants.Decimal.Fixed
import ShaderVariants.Decimal.Reading
import ShaderVariants.Iteration
import ShaderVariants.Template.Number
import ShaderVariants.Text.Escape

/-!
# Patterns

A text may be a pattern that values are filled in. A field of a pattern begins with a percent
sign and ends with the letter of a conversion; in between stand flags, a width and a precision.
Fields take the values of a tuple one by one, or the one value that is no tuple.
-/

namespace ShaderVariants.Template.Pattern

/-- A field of a pattern. Fields without a width have the width zero. -/
structure Field where
  alignsLeft : Bool
  showsSign : Bool
  keepsBlank : Bool
  isAlternate : Bool
  padsZeros : Bool
  width : Nat
  precision : Option Nat
  conversion : Char

/-- What a value becomes before it is filled in: a sign, a mark in front of its digits, and the
rest. Only numbers are padded with zeros. -/
structure Content where
  isNumber : Bool
  sign : String
  mark : String
  body : String

/-- A pattern that is being filled in: what is left of it, the number of characters before that,
the values that are left, and the container that keys would look into. -/
structure Filling where
  rest : List Char
  index : Nat
  values : List Value
  container : Option Value

/-- What fills in a pattern step by step. -/
abbrev Filler := StateT Filling Evaluation

def fail {α : Type} (fault : PatternFault) : Filler α := throw (.pattern fault)

/-! ## Contents -/

/-- Characters in a row. -/
def replicated (count : Nat) (c : Char) : String := String.ofList (List.replicate count c)

def Field.padded (field : Field) (content : Content) : String :=
  let front := content.sign ++ content.mark
  let missing := field.width - (front.length + content.body.length)
  if field.alignsLeft then front ++ content.body ++ replicated missing ' '
  else if field.padsZeros && content.isNumber then
    front ++ replicated missing '0' ++ content.body
  else replicated missing ' ' ++ front ++ content.body

def Field.sign (field : Field) (isNegative : Bool) : String :=
  if isNegative then "-" else if field.showsSign then "+" else if field.keepsBlank then " " else ""

def radix (conversion : Char) : Nat :=
  if conversion = 'o' then 8
  else if conversion = 'x' ∨ conversion = 'X' then 16
  else 10

/-- The integer that a value is converted to. Reals lose their fraction, but only where decimal
digits are written. -/
def integerOf (conversion : Char) (value : Value) : Evaluation Int :=
  let isDecimal := radix conversion = 10
  match value with
  | .bool truth => .ok (if truth then 1 else 0)
  | .integer number => .ok number
  | .real number =>
    if !isDecimal then .error (.pattern (.notInteger conversion value.typeName))
    else if number.isNaN then .error .notANumber
    else if number.isInf then .error (.overflow .infinityToInteger)
    else .ok (Binary.truncated number)
  | .missing message =>
    if isDecimal then .error (.undefined message)
    else .error (.pattern (.notInteger conversion value.typeName))
  | value =>
    if isDecimal then .error (.pattern (.notNumber conversion value.typeName))
    else .error (.pattern (.notInteger conversion value.typeName))

/-- A text in capital letters, if they are wanted. -/
def cased (isUpper : Bool) (text : String) : String := if isUpper then text.toUpper else text

/-- An integer in a field. The precision is the least number of digits. -/
def integerContent (field : Field) (value : Value) : Evaluation Content := do
  let number ← integerOf field.conversion value
  let radix := radix field.conversion
  if radix = 10 && Decimal.exceedsWriting number then throw .oversizedInteger
  let digits := String.ofList (Nat.toDigits radix number.natAbs)
  let zeros := replicated (field.precision.getD 0 - digits.length) '0'
  let mark := if field.isAlternate && radix ≠ 10 then (if radix = 8 then "0o" else "0x") else ""
  let isUpper := field.conversion = 'X'
  return ⟨true, field.sign (number < 0), cased isUpper mark, cased isUpper (zeros ++ digits)⟩

def realOf (value : Value) : Evaluation Float :=
  match value with
  | .bool truth => .ok (if truth then 1 else 0)
  | .integer number => Number.realOfInteger number
  | .real number => .ok number
  | .missing message => .error (.undefined message)
  | value => .error (.pattern (.notReal value.typeName))

/-- The digits behind the point that are written unless a precision is given. -/
def usualPrecision : Nat := 6

def realBody (field : Field) (number : Float) : String :=
  let places := field.precision.getD usualPrecision
  let magnitude := Binary.magnitude number
  if number.isNaN then "nan"
  else if number.isInf then "inf"
  else
    match field.conversion.toLower with
    | 'e' => Decimal.exponential magnitude places field.isAlternate
    | 'f' => Decimal.fixed magnitude places field.isAlternate
    | _ => Decimal.general magnitude places field.isAlternate

def realContent (field : Field) (value : Value) : Evaluation Content := do
  let number ← realOf value
  let isNegative := Binary.isNegative number && !number.isNaN
  return ⟨true, field.sign isNegative, "", cased field.conversion.isUpper (realBody field number)⟩

/-- A single character in a field, given as such or by its code point. -/
def characterContent (value : Value) : Evaluation Content := do
  match value with
  | .text text =>
    if text.length = 1 then return ⟨false, "", "", text⟩ else throw (.pattern .notCharacter)
  | value =>
    let code ←
      match value with
      | .bool truth => pure (if truth then 1 else 0)
      | .integer number => pure number
      | _ => throw (.pattern .notCharacter)
    if code < 0 ∨ 0x110000 ≤ code then throw (.overflow .character)
    return ⟨false, "", "", String.singleton (Char.ofNat code.toNat)⟩

/-- A value as a text in a field: itself, as it is written, or as it is written with escapes for
all characters beyond the first 128. The precision is the greatest length. -/
def textContent (field : Field) (value : Value) : Evaluation Content := do
  let text ←
    match field.conversion with
    | 's' => value.asText
    | 'r' => value.asWritten
    | _ => (fun text => String.ofList (Text.Escape.toAscii text.toList)) <$> value.asWritten
  let kept := text.toList.take (field.precision.getD text.length)
  return ⟨false, "", "", String.ofList kept⟩

/-- What a value becomes in a field, if its conversion is known. -/
def content? (field : Field) (value : Value) : Option (Evaluation Content) :=
  if field.conversion ∈ ['d', 'i', 'u', 'o', 'x', 'X'] then some (integerContent field value)
  else if field.conversion ∈ ['e', 'E', 'f', 'F', 'g', 'G'] then some (realContent field value)
  else if field.conversion ∈ ['s', 'r', 'a'] then some (textContent field value)
  else if field.conversion = 'c' then some (characterContent value)
  else none

/-! ## Fields -/

/-- Consumes a number of characters. -/
def skip (count : Nat) : Filler Unit :=
  modify fun filling =>
    { filling with rest := filling.rest.drop count, index := filling.index + count }

/-- The first character, which has to be there. -/
def peek : Filler Char := do
  match (← get).rest with
  | [] => fail .incomplete
  | c :: _ => return c

/-- Consumes the characters at the front that pass a test. -/
def takeWhile (test : Char → Bool) : Filler (List Char) := do
  let taken := (← get).rest.takeWhile test
  skip taken.length
  return taken

def nextValue : Filler Value := do
  match (← get).values with
  | [] => fail .tooFewValues
  | value :: values =>
    modify fun filling => { filling with values := values }
    return value

/-- Consumes a value that tells a width or a precision. -/
def nextSize : Filler Int := do
  match ← nextValue with
  | .bool truth => return if truth then 1 else 0
  | .integer number => return number
  | _ => fail .fieldNotInteger

def greatestWidth : Nat := Nat.pow 2 63 - 1

def greatestPrecision : Nat := Nat.pow 2 31 - 1

/-- Length of a key and the parenthesis behind it; parentheses inside of it come in pairs. -/
def keyLength? : (depth : Nat) → List Char → Option Nat
  | _, [] => none
  | depth, c :: rest =>
    if c = ')' then
      match depth with
      | 0 => some 1
      | depth + 1 => (keyLength? depth rest).map (· + 1)
    else if c = '(' then (keyLength? (depth + 1) rest).map (· + 1)
    else (keyLength? depth rest).map (· + 1)

/-- The value for a key among entries. Only texts are keys of patterns. -/
def valueOfKey? (entries : List (Value × Value)) (key : List Char) : Option Value :=
  entries.findSome? fun
    | (.text found, value) => if found.toList = key then some value else none
    | _ => none

/-- Looks a key up in the container, of which its value is then all that is filled in. Only
dictionaries know keys. -/
def key : Filler Unit := do
  if (← get).rest.head? ≠ some '(' then return
  match (← get).container with
  | none => fail .noMapping
  | some container =>
    skip 1
    let some length := keyLength? 0 (← get).rest | fail .incompleteKey
    match container with
    | .missing message => throw (.undefined message)
    | .dictionary entries =>
      let key := (← get).rest.take (length - 1)
      skip length
      match valueOfKey? entries key with
      | some value => modify fun filling => { filling with values := [value] }
      | none => throw (.missingKey (String.ofList key))
    | container => fail (.noKeys container.typeName)

def isFlag (c : Char) : Bool := c ∈ ['-', '+', ' ', '#', '0']

/-- The width of a field, which is negative if the field aligns to the left. -/
def width : Filler Int := do
  if (← peek) = '*' then
    skip 1
    let size ← nextSize
    if greatestWidth < size.natAbs then throw (.overflow .width)
    return size
  else
    let width := Decimal.number (← takeWhile Decimal.isDigit)
    if greatestWidth < width then fail .wideField
    return width

def precision : Filler (Option Nat) := do
  if (← peek) ≠ '.' then return none
  skip 1
  if (← peek) = '*' then
    skip 1
    let size ← nextSize
    if greatestPrecision < size.natAbs then throw (.overflow .precision)
    return some size.toNat
  else
    let precision := Decimal.number (← takeWhile Decimal.isDigit)
    if greatestPrecision < precision then fail .longPrecision
    return some precision

/-- A field up to and with its conversion. A letter for the size of numbers says nothing. -/
def field : Filler Field := do
  key
  let flags ← takeWhile isFlag
  let width ← width
  let precision ← precision
  if (← peek) ∈ ['h', 'l', 'L'] then skip 1
  let conversion ← peek
  skip 1
  return ⟨width < 0 || '-' ∈ flags, '+' ∈ flags, ' ' ∈ flags, '#' ∈ flags, '0' ∈ flags,
    width.natAbs, precision, conversion⟩

/-- A field with its value filled in. Two percent signs in a row are one. -/
def filledField : Filler String := do
  if (← get).rest.head? = some '%' then
    skip 1
    return "%"
  let field ← field
  let value ← nextValue
  match content? field value with
  | some content => return field.padded (← content)
  | none => fail (.unknownConversion field.conversion ((← get).index - 1))

/-- Fills in the next field, or copies the text in front of it. -/
def step (done : String) : Filler (Option String) := do
  match (← get).rest with
  | [] => return none
  | '%' :: _ =>
    skip 1
    return some (done ++ (← filledField))
  | _ => return some (done ++ String.ofList (← takeWhile (· ≠ '%')))

def valuesOf : Value → List Value
  | .tuple items => items
  | value => [value]

/-- The container that keys look into. -/
def containerOf : Value → Option Value
  | .list items => some (.list items)
  | .range members => some (.range members)
  | .dictionary entries => some (.dictionary entries)
  | .missing message => some (.missing message)
  | .builtin .template => some (.builtin .template)
  | _ => none

/-- Fills values in a pattern. Without a container none of them may be left. -/
def fill (pattern : String) (value : Value) : Evaluation String := do
  let chars := pattern.toList
  let filling : Filling := ⟨chars, 0, valuesOf value, containerOf value⟩
  let (text, filled) ← (iterateWithin step (chars.length + 1) "").run filling
  if !filled.values.isEmpty && filled.container.isNone then throw (.pattern .tooManyValues)
  return text

end ShaderVariants.Template.Pattern
