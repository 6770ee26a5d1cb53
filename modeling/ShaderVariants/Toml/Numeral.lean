import ShaderVariants.Datum
import ShaderVariants.Toml.Fault
import ShaderVariants.Toml.Pattern
import ShaderVariants.Scalar.Numeral

/-!
# Numbers of TOML

An integer has hexadecimal, octal or binary digits behind a mark, or decimal ones behind an
optional sign. Decimal digits with a fraction or a power of ten behind them are a real number.
Single underscores may stand between digits.
-/

namespace ShaderVariants.Toml

/-- What a numeral is taken for, or what is wrong with it. -/
abbrev NumeralValue := Except Problem Datum

namespace Pattern

def marked (mark : Char) (radix : Nat) : Pattern NumeralValue := do
  let _ ← char '0'
  let _ ← char mark
  let isMember := Numeral.isDigitOf radix
  let digits ← groups isMember isMember
  return .ok (.integer (Numeral.value ⟨radix, digits, none⟩))

def sign : Pattern Char := one fun c => c == '+' || c == '-'

/-- The digits of a whole number, which has no zeros in front. -/
def whole : Pattern (List Char) := fun cs =>
  match cs with
  | '0' :: rest => some (['0'], rest)
  | cs => groups Decimal.isDigit Decimal.isDigit cs

/-- A point and the digits behind it. -/
def decimals : Pattern Unit := do
  let _ ← char '.'
  let _ ← groups Decimal.isDigit Decimal.isDigit

def power : Pattern Unit := do
  let _ ← one fun c => c == 'e' || c == 'E'
  let _ ← optional sign
  let _ ← groups Decimal.isDigit Decimal.isDigit

def decimal : Pattern NumeralValue := do
  let ((negative, digits, isReal), text) ← withText do
    let negative := (← optional sign) == some '-'
    let digits ← whole
    let fraction ← optional decimals
    let exponent ← optional power
    return (negative, digits, fraction.isSome || exponent.isSome)
  if isReal then return .ok (.real (readReal (text.filter fun c => c != '_')))
  else if Decimal.isOversized digits then return .error (.tooManyDigits digits.length)
  else
    let value : Int := Decimal.number digits
    return .ok (.integer (if negative then -value else value))

/-- A number. -/
def numeral : Pattern NumeralValue :=
  marked 'x' 16 <|> marked 'b' 2 <|> marked 'o' 8 <|> decimal

/-- A real number that is infinite or not a number. -/
def special : Pattern Datum := do
  let negative := (← optional sign) == some '-'
  let word : List Char := (← get).take 3
  modify fun cs => cs.drop 3
  let infinite : Float := 1 / 0
  if word = ['i', 'n', 'f'] then return .real (if negative then -infinite else infinite)
  else if word = ['n', 'a', 'n'] then return .real (0 / 0)
  else failure

end Pattern

end ShaderVariants.Toml
