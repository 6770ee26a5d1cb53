import ShaderVariants.Decimal.Limit

/-!
# Faults of evaluation

Why an expression of a template has no value, why a value cannot be used, and what messages call
these faults. Types go by their names.
-/

namespace ShaderVariants.Template

/-- Ways to divide by zero. -/
inductive Division where
  | quotient
  | realQuotient
  | complexQuotient
  | floorQuotient
  | remainder
  | realFloorQuotient
  | realRemainder
  | power
  | complexPower
  deriving DecidableEq, Repr

namespace Division

/-- The fault in words. -/
def message : Division → String
  | quotient => "division by zero"
  | realQuotient => "float division by zero"
  | complexQuotient => "complex division by zero"
  | floorQuotient => "integer division or modulo by zero"
  | remainder => "integer modulo by zero"
  | realFloorQuotient => "float floor division by zero"
  | realRemainder => "float modulo"
  | power => "0.0 cannot be raised to a negative power"
  | complexPower => "0.0 to a negative or complex power"

end Division

/-- Results and conversions that are out of range. -/
inductive Overflow where
  | power
  | complexPower
  | quotient
  | integerToReal
  | infinityToInteger
  | count
  | width
  | precision
  | character
  deriving DecidableEq, Repr

namespace Overflow

/-- The fault in words. -/
def message : Overflow → String
  | power => "(34, 'Numerical result out of range')"
  | complexPower => "complex exponentiation"
  | quotient => "integer division result too large for a float"
  | integerToReal => "int too large to convert to float"
  | infinityToInteger => "cannot convert float infinity to integer"
  | count => "cannot fit 'int' into an index-sized integer"
  | width => "Python int too large to convert to C ssize_t"
  | precision => "Python int too large to convert to C int"
  | character => "%c arg not in range(0x110000)"

end Overflow

/-- Why a pattern cannot be filled in with values. -/
inductive PatternFault where
  | incomplete
  | incompleteKey
  | unknownConversion (conversion : Char) (index : Nat)
  | wideField
  | longPrecision
  | tooFewValues
  | tooManyValues
  | noMapping
  | noKeys (container : String)
  | fieldNotInteger
  | notNumber (conversion : Char) (type : String)
  | notInteger (conversion : Char) (type : String)
  | notReal (type : String)
  | notCharacter
  deriving DecidableEq, Repr

namespace PatternFault

/-- The pattern itself is at fault, and not the types of the values. -/
def isMalformed : PatternFault → Bool
  | incomplete => true
  | incompleteKey => true
  | unknownConversion _ _ => true
  | wideField => true
  | longPrecision => true
  | _ => false

/-- A conversion as a message shows it. -/
def shownConversion (conversion : Char) : Char :=
  if 31 ≤ conversion.toNat ∧ conversion.toNat < 127 then conversion else '?'

def hexadecimal (number : Nat) : String := String.ofList (Nat.toDigits 16 number)

def message : PatternFault → String
  | incomplete => "incomplete format"
  | incompleteKey => "incomplete format key"
  | unknownConversion conversion index =>
    let shown := shownConversion conversion
    let code := hexadecimal conversion.toNat
    s!"unsupported format character '{shown}' (0x{code}) at index {index}"
  | wideField => "width too big"
  | longPrecision => "precision too big"
  | tooFewValues => "not enough arguments for format string"
  | tooManyValues => "not all arguments converted during string formatting"
  | noMapping => "format requires a mapping"
  | noKeys container => s!"{container} indices must be integers or slices, not str"
  | fieldNotInteger => "* wants int"
  | notNumber conversion type => s!"%{conversion} format: a real number is required, not {type}"
  | notInteger conversion type => s!"%{conversion} format: an integer is required, not {type}"
  | notReal type => s!"must be real number, not {type}"
  | notCharacter => "%c requires int or char"

end PatternFault

/-- Why a function cannot take its arguments. -/
inductive ArgumentFault where
  | named (function : String)
  | tooFew (function : String)
  | tooMany (function : String) (most given : Nat)
  | repeated (function name : String)
  | unexpected (function name : String)
  | surplus (function : String) (least most given : Nat)
  | noPair (function : String) (index : Nat)
  | wrongPair (function : String) (index length : Nat)
  deriving DecidableEq, Repr

namespace ArgumentFault

/-- Numbers of arguments that a function takes. -/
def accepted (least most : Nat) : String :=
  if least = most then s!"{most} positional argument" ++ (if most = 1 then "" else "s")
  else s!"from {least} to {most} positional arguments"

/-- A value of an argument is of the right type, but not of the right size. -/
def isMeasured : ArgumentFault → Bool
  | wrongPair _ _ _ => true
  | _ => false

def message : ArgumentFault → String
  | named function => s!"{function}() takes no keyword arguments"
  | tooFew function => s!"{function} expected at least 1 argument, got 0"
  | tooMany function most given => s!"{function} expected at most {most} arguments, got {given}"
  | repeated function name => s!"{function}() got multiple values for argument '{name}'"
  | unexpected function name => s!"{function}() got an unexpected keyword argument '{name}'"
  | surplus function least most given =>
    s!"{function}() takes {accepted least most} but {given} were given"
  | noPair function index =>
    s!"cannot convert {function} update sequence element #{index} to a sequence"
  | wrongPair function index length =>
    s!"{function} update sequence element #{index} has length {length}; 2 is required"

end ArgumentFault

/-- Why an expression has no value, or a value cannot be used. -/
inductive EvaluationFault where
  | undefined (message : String)
  | zeroDivision (division : Division)
  | overflow (cause : Overflow)
  | notANumber
  | operands (operator left right : String)
  | concatenation (sequence other : String)
  | repetition (count : String)
  | pattern (fault : PatternFault)
  | operand (operator type : String)
  | ordering (relation left right : String)
  | notIterable (type : String)
  | notContainer (type : String)
  | textContainer (type : String)
  | notCallable (type : String)
  | notInteger (type : String)
  | arguments (fault : ArgumentFault)
  | zeroStep
  | zeroSliceStep
  | notBound
  | notSubscriptable (type : String)
  | unhashable (type : String)
  | missingKey (key : String)
  | notNamespace
  | noItemAssignment
  | oversizedInteger
  | notUnpackable (type : String)
  | tooFewItems (wanted given : Nat)
  | tooManyItems (wanted : Nat)
  | unknownName (name : String)
  | unknownFilter (name : String)
  | unknownTest (name : String)
  | reservedDefinition (name : String)
  deriving DecidableEq, Repr

namespace EvaluationFault

def kindName : EvaluationFault → String
  | undefined _ => "UndefinedError"
  | zeroDivision _ => "ZeroDivisionError"
  | overflow _ => "OverflowError"
  | notANumber => "ValueError"
  | pattern fault => if fault.isMalformed then "ValueError" else "TypeError"
  | arguments fault => if fault.isMeasured then "ValueError" else "TypeError"
  | zeroStep => "ValueError"
  | zeroSliceStep => "ValueError"
  | missingKey _ => "KeyError"
  | notNamespace => "TemplateRuntimeError"
  | oversizedInteger => "ValueError"
  | tooFewItems _ _ => "ValueError"
  | tooManyItems _ => "ValueError"
  | unknownName _ => "NameError"
  | unknownFilter _ => "TemplateRuntimeError"
  | unknownTest _ => "TemplateRuntimeError"
  | _ => "TypeError"

def message : EvaluationFault → String
  | undefined message => message
  | zeroDivision division => division.message
  | overflow cause => cause.message
  | notANumber => "cannot convert float NaN to integer"
  | operands operator left right =>
    s!"unsupported operand type(s) for {operator}: '{left}' and '{right}'"
  | concatenation sequence other =>
    s!"can only concatenate {sequence} (not \"{other}\") to {sequence}"
  | repetition count => s!"can't multiply sequence by non-int of type '{count}'"
  | pattern fault => fault.message
  | operand operator type => s!"bad operand type for unary {operator}: '{type}'"
  | ordering relation left right =>
    s!"'{relation}' not supported between instances of '{left}' and '{right}'"
  | notIterable type => s!"'{type}' object is not iterable"
  | notContainer type => s!"argument of type '{type}' is not iterable"
  | textContainer type => s!"'in <string>' requires string as left operand, not {type}"
  | notCallable type => s!"'{type}' object is not callable"
  | notInteger type => s!"'{type}' object cannot be interpreted as an integer"
  | arguments fault => fault.message
  | zeroStep => "range() arg 3 must not be zero"
  | zeroSliceStep => "slice step cannot be zero"
  | notBound => "slice indices must be integers or None or have an __index__ method"
  | notSubscriptable type => s!"'{type}' object is not subscriptable"
  | unhashable type => s!"unhashable type: '{type}'"
  | missingKey key => key
  | notNamespace => "cannot assign attribute on non-namespace object"
  | noItemAssignment => "object does not support item assignment"
  | oversizedInteger => Decimal.oversizedIntegerMessage
  | notUnpackable type => s!"cannot unpack non-iterable {type} object"
  | tooFewItems wanted given =>
    s!"not enough values to unpack (expected {wanted}, got {given})"
  | tooManyItems wanted => s!"too many values to unpack (expected {wanted})"
  | unknownName name => s!"name '{name}' is not defined"
  | unknownFilter name => s!"No filter named '{name}' found."
  | unknownTest name => s!"No test named '{name}' found."
  | reservedDefinition name =>
    s!"Template.render() got multiple values for argument '{name}'"

end EvaluationFault

/-- A computation that may meet a fault. -/
abbrev Evaluation := Except EvaluationFault

end ShaderVariants.Template
