import ShaderVariants.Template.Expression

/-!
# Numbers of templates

Integers of any size, reals and complex numbers. An operation on numbers of two kinds makes the
narrower one wider first, which may be out of range. Division goes to the floor; comparison is
exact. Powers leave the integers for negative exponents, and the reals for roots of negative
numbers.
-/

namespace ShaderVariants.Template

/-- A number of one of three kinds, the narrowest one first. -/
inductive Number where
  | integer (value : Int)
  | real (value : Float)
  | complex (value : Complex)

namespace Number

def realOfInteger (value : Int) : Evaluation Float :=
  let nearest := Binary.ofInteger value
  if nearest.isInf then .error (.overflow .integerToReal) else .ok nearest

def toComplex : Number → Evaluation Complex
  | integer value => Complex.ofReal <$> realOfInteger value
  | real value => .ok (Complex.ofReal value)
  | complex value => .ok value

def toValue : Number → Value
  | integer value => .integer value
  | real value => .real value
  | complex value => .complex value

def integer? : Number → Option Int
  | integer value => some value
  | real value => Binary.integer? value
  | complex value => if value.im == 0 then Binary.integer? value.re else none

/-- How two numbers compare. Nothing compares with a number that is no number, and complex
numbers have no order. -/
def compare? : Number → Number → Option Ordering
  | integer left, integer right => some (compare left right)
  | integer left, real right => Binary.compareInteger? left right
  | real left, integer right => (Binary.compareInteger? right left).map Ordering.swap
  | real left, real right => Binary.compareReals? left right
  | _, _ => none

def equal (left right : Number) : Bool :=
  match left, right with
  | complex left, complex right => left.equal right
  | complex left, right => left.im == 0 && compare? (real left.re) right == some .eq
  | left, complex right => right.im == 0 && compare? left (real right.re) == some .eq
  | left, right => compare? left right == some .eq

/-- The quotient of two integers as a real number. -/
def integerQuotient (left right : Int) : Evaluation Value :=
  if right = 0 then .error (.zeroDivision .quotient)
  else
    let isNegative := decide (left < 0) != decide (right < 0)
    let quotient := Binary.nearest isNegative left.natAbs right.natAbs
    if quotient.isInf then .error (.overflow .quotient) else .ok (.real quotient)

/-- What remains of a real number, with the sign of the divisor. -/
def realRemainder (left right : Float) : Float :=
  let rest := Binary.remainder left right
  if rest == 0 then Binary.withSignOf right 0
  else if (right < 0) != (rest < 0) then rest + right
  else rest

/-- The floor of a real quotient. The remainder is taken away first, so that only a rounding of
the quotient itself is left to be undone. -/
def realFloor (left right : Float) : Float :=
  let rest := Binary.remainder left right
  let quotient := (left - rest) / right
  let quotient := if rest != 0 && (right < 0) != (rest < 0) then quotient - 1 else quotient
  if quotient == 0 then Binary.withSignOf (left / right) 0
  else
    let floor := quotient.floor
    if 0.5 < quotient - floor then floor + 1 else floor

def complexPower (base exponent : Complex) : Evaluation Value :=
  match base.power exponent with
  | .ok power => .ok (.complex power)
  | .error .ofZero => .error (.zeroDivision .complexPower)
  | .error .tooLarge => .error (.overflow .complexPower)

/-- The power of two finite real numbers of which the base is not zero. -/
def finitePower (base exponent : Float) : Evaluation Value :=
  if base < 0 && exponent.floor != exponent then
    complexPower (.ofReal base) (.ofReal exponent)
  else
    let power := Float.pow base exponent
    if power.isInf then .error (.overflow .power) else .ok (.real power)

def realPower (base exponent : Float) : Evaluation Value :=
  if base.isNaN || exponent.isNaN || base.isInf || exponent.isInf then
    .ok (.real (Float.pow base exponent))
  else if base == 0 then
    if exponent < 0 then .error (.zeroDivision .power)
    else .ok (.real (Float.pow base exponent))
  else finitePower base exponent

/-- The power of two integers. A negative exponent makes it a real one. -/
def integerPower (base exponent : Int) : Evaluation Value := do
  if 0 ≤ exponent then return .integer (Int.pow base exponent.toNat)
  else realPower (← realOfInteger base) (← realOfInteger exponent)

def applyToIntegers (operator : BinaryOperator) (left right : Int) : Evaluation Value :=
  match operator with
  | .add => .ok (.integer (left + right))
  | .subtract => .ok (.integer (left - right))
  | .multiply => .ok (.integer (left * right))
  | .divide => integerQuotient left right
  | .floorDivide =>
    if right = 0 then .error (.zeroDivision .floorQuotient)
    else .ok (.integer (left.fdiv right))
  | .modulo =>
    if right = 0 then .error (.zeroDivision .remainder) else .ok (.integer (left.fmod right))
  | .power => integerPower left right

/-- The result of an arithmetic operator on real numbers. -/
def applyToReals (operator : BinaryOperator) (left right : Float) : Evaluation Value :=
  match operator with
  | .add => .ok (.real (left + right))
  | .subtract => .ok (.real (left - right))
  | .multiply => .ok (.real (left * right))
  | .divide =>
    if right == 0 then .error (.zeroDivision .realQuotient) else .ok (.real (left / right))
  | .floorDivide =>
    if right == 0 then .error (.zeroDivision .realFloorQuotient)
    else .ok (.real (realFloor left right))
  | .modulo =>
    if right == 0 then .error (.zeroDivision .realRemainder)
    else .ok (.real (realRemainder left right))
  | .power => realPower left right

/-- The result of an arithmetic operator on complex numbers, if it has one: they have no
floor. -/
def applyToComplex? (operator : BinaryOperator) (left right : Complex) : Option (Evaluation Value) :=
  match operator with
  | .add => some (.ok (.complex (left.add right)))
  | .subtract => some (.ok (.complex (left.subtract right)))
  | .multiply => some (.ok (.complex (left.multiply right)))
  | .divide =>
    some (if right.isZero then .error (.zeroDivision .complexQuotient)
      else .ok (.complex (left.divide right)))
  | .floorDivide => none
  | .modulo => none
  | .power => some (complexPower left right)

/-- The result of an arithmetic operator, if the operator knows numbers of these kinds. -/
def result? (operator : BinaryOperator) (left right : Number) : Option (Evaluation Value) :=
  match left, right with
  | integer left, integer right => some (applyToIntegers operator left right)
  | integer left, real right =>
    some (do applyToReals operator (← realOfInteger left) right)
  | real left, integer right =>
    some (do applyToReals operator left (← realOfInteger right))
  | real left, real right => some (applyToReals operator left right)
  | left, right =>
    match operator with
    | .floorDivide => none
    | .modulo => none
    | operator =>
      match left.toComplex, right.toComplex with
      | .ok left, .ok right => applyToComplex? operator left right
      | .error fault, _ => some (.error fault)
      | _, .error fault => some (.error fault)

/-- The number with the opposite sign. -/
def negate : Number → Number
  | integer value => integer (-value)
  | real value => real (-value)
  | complex value => complex value.negate

end Number

end ShaderVariants.Template
