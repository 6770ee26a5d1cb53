import ShaderVariants.Binary.Nearest

/-!
# Exact values of floating-point numbers

A finite floating-point number is a fraction whose denominator is a power of two. Comparison with
integers, truncation and the remainder of a division are exact on these fractions.
-/

namespace ShaderVariants.Binary

/-- The numerator of a magnitude as a fraction. -/
def numerator (number : Binary) : Nat := number.significand * Nat.pow 2 number.exponent.toNat

/-- The denominator of a magnitude as a fraction. -/
def denominator (number : Binary) : Nat := Nat.pow 2 (-number.exponent).toNat

/-- The sign of a number is negative. Zero has a sign as well. -/
def isNegative (value : Float) : Bool := value.toBits >>> 63 = 1

/-- The magnitude of a finite number. -/
def magnitude (value : Float) : Binary := ofBits value.toBits

def withSignOf (value magnitude : Float) : Float :=
  if isNegative value then -magnitude.abs else magnitude.abs

def signedNumerator (value : Float) : Int :=
  let absolute : Int := (magnitude value).numerator
  if isNegative value then -absolute else absolute

/-- A finite number without its fraction. -/
def truncated (value : Float) : Int :=
  (signedNumerator value).tdiv (magnitude value).denominator

/-- The integer that a number equals. -/
def integer? (value : Float) : Option Int :=
  if value.isNaN || value.isInf then none
  else if (magnitude value).numerator % (magnitude value).denominator = 0 then
    some (truncated value)
  else none

/-- How an integer compares with a number, unless that is no number at all. -/
def compareInteger? (integer : Int) (value : Float) : Option Ordering :=
  if value.isNaN then none
  else if value.isInf then some (if isNegative value then .gt else .lt)
  else some (compare (integer * (magnitude value).denominator) (signedNumerator value))

/-- How two numbers compare, unless one of them is no number at all. -/
def compareReals? (left right : Float) : Option Ordering :=
  if left.isNaN || right.isNaN then none
  else some (if left < right then .lt else if right < left then .gt else .eq)

def notANumber : Float := 0 / 0

/-- What remains of a number after it is divided by another one, rounding toward zero. It has the
sign of the dividend. -/
def remainder (dividend divisor : Float) : Float :=
  if dividend.isNaN || divisor.isNaN || dividend.isInf || divisor == 0 then notANumber
  else if divisor.isInf then dividend
  else
    let whole := magnitude dividend
    let part := magnitude divisor
    nearest (isNegative dividend)
      ((whole.numerator * part.denominator) % (part.numerator * whole.denominator))
      (whole.denominator * part.denominator)

end ShaderVariants.Binary
