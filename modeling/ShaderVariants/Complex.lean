import ShaderVariants.Binary.Exact
import ShaderVariants.Decimal.Written

/-!
# Complex numbers

Complex numbers with floating-point parts. Small integer powers are products; all others go over
the absolute value and the angle. A power of zero has to be a real one that is not negative.
-/

namespace ShaderVariants

/-- A complex number in Cartesian form. -/
structure Complex where
  re : Float
  im : Float

namespace Complex

def ofReal (value : Float) : Complex := ⟨value, 0⟩

def isZero (z : Complex) : Bool := z.re == 0 && z.im == 0

/-- Both numbers are equal. -/
def equal (z w : Complex) : Bool := z.re == w.re && z.im == w.im

/-- A part has left the finite numbers. -/
def isInfinite (z : Complex) : Bool := z.re.isInf || z.im.isInf

/-- The sum of two numbers. -/
def add (z w : Complex) : Complex := ⟨z.re + w.re, z.im + w.im⟩

/-- The difference of two numbers. -/
def subtract (z w : Complex) : Complex := ⟨z.re - w.re, z.im - w.im⟩

/-- The number with the opposite sign. -/
def negate (z : Complex) : Complex := ⟨-z.re, -z.im⟩

/-- The product of two numbers. -/
def multiply (z w : Complex) : Complex :=
  ⟨z.re * w.re - z.im * w.im, z.re * w.im + z.im * w.re⟩

/-- The quotient of two numbers. The larger part of the divisor is divided out first. -/
def divide (z w : Complex) : Complex :=
  if w.im.abs ≤ w.re.abs then
    let ratio := w.im / w.re
    let scale := w.re + w.im * ratio
    ⟨(z.re + z.im * ratio) / scale, (z.im - z.re * ratio) / scale⟩
  else
    let ratio := w.re / w.im
    let scale := w.re * ratio + w.im
    ⟨(z.re * ratio + z.im) / scale, (z.im * ratio - z.re) / scale⟩

/-- The bits of a number, from the lowest on, as many as asked for. -/
def bitsOf : (count : Nat) → Nat → List Bool
  | 0, _ => []
  | count + 1, number => (number % 2 == 1) :: bitsOf count (number / 2)

/-- A power with a natural exponent, by repeated squaring. -/
def naturalPower (base : Complex) (exponent : Nat) : Complex :=
  let bits := bitsOf (if exponent = 0 then 0 else exponent.log2 + 1) exponent
  (bits.foldl (fun (product, square) bit =>
    (if bit then product.multiply square else product, square.multiply square))
    (ofReal 1, base)).1

/-- The distance of a number from zero. -/
def absolute (z : Complex) : Float :=
  if z.im == 0 then z.re.abs
  else if z.re == 0 then z.im.abs
  else (z.re * z.re + z.im * z.im).sqrt

/-- A power of a number that is not zero, in polar form. -/
def polarPower (base exponent : Complex) : Complex :=
  let radius := base.absolute
  let angle := Float.atan2 base.im base.re
  let length := Float.pow radius exponent.re
  let phase := angle * exponent.re
  let (length, phase) :=
    if exponent.im == 0 then (length, phase)
    else (length / Float.exp (angle * exponent.im), phase + exponent.im * Float.log radius)
  ⟨length * Float.cos phase, length * Float.sin phase⟩

/-- Exponents up to this magnitude are small, if they are integers. -/
def smallExponent : Float := 100

/-- Why a power does not exist. -/
inductive PowerProblem where
  | ofZero
  | tooLarge
  deriving DecidableEq, Repr

/-- A power, unless it is infinite. -/
def finitePower (power : Complex) : Except PowerProblem Complex :=
  if power.isInfinite then .error .tooLarge else .ok power

/-- A power with an integer exponent. A negative one divides by a power, which may have become
zero. -/
def integerPower (base : Complex) (exponent : Int) : Except PowerProblem Complex :=
  if 0 < exponent then finitePower (base.naturalPower exponent.toNat)
  else
    let divisor := base.naturalPower (-exponent).toNat
    if divisor.isZero then .error .ofZero else finitePower ((ofReal 1).divide divisor)

/-- The power of two numbers. -/
def power (base exponent : Complex) : Except PowerProblem Complex :=
  if exponent.im == 0 && exponent.re.floor == exponent.re && exponent.re.abs ≤ smallExponent then
    base.integerPower (Binary.truncated exponent.re)
  else if exponent.isZero then .ok (ofReal 1)
  else if base.isZero then
    if exponent.im != 0 || exponent.re < 0 then .error .ofZero else .ok (ofReal 0)
  else finitePower (base.polarPower exponent)

/-- A part as it is written: like a real number, but an integer has no fraction. -/
def writtenPart (value : Float) : String :=
  let text := (writtenReal value).toList
  if ['.', '0'].isSuffixOf text then String.ofList (text.take (text.length - 2))
  else String.ofList text

def writtenSigned (value : Float) : String :=
  if Binary.isNegative value && !value.isNaN then writtenPart value else "+" ++ writtenPart value

/-- The number as it is written. The real part is left out if it is a zero without a sign. -/
def written (z : Complex) : String :=
  if z.re == 0 && !Binary.isNegative z.re then writtenPart z.im ++ "j"
  else "(" ++ writtenPart z.re ++ writtenSigned z.im ++ "j)"

end Complex

end ShaderVariants
