import ShaderVariants.Binary.Exact
import ShaderVariants.Decimal.Written

/-!
# Decimals of a given length

A number of binary floating point is written with a given number of digits behind the point, with
a given number of digits behind the first one and a power of ten, or in the shorter one of both
forms with a given number of digits in all. The exact value is rounded; a half goes to the even
digit.
-/

namespace ShaderVariants

namespace Binary

/-- The magnitude in units of `10 ^ -places`, rounded. -/
def rounded (number : Binary) (places : Int) : Nat :=
  roundQuotient (number.numerator * Nat.pow 10 places.toNat)
    (number.denominator * Nat.pow 10 (-places).toNat)

def reaches (number : Binary) (power : Int) : Bool :=
  number.denominator * Nat.pow 10 power.toNat ≤ number.numerator * Nat.pow 10 (-power).toNat

/-- The greatest power of ten that a magnitude above zero reaches. -/
def decimalPower (number : Binary) : Int :=
  let bound := number.scale
  ((List.range 5).map fun (step : Nat) => bound - step).find? number.reaches |>.getD (bound - 5)

/-- The first digits of a magnitude, one and `places` more, and the power of ten of the first
one. -/
def leadingDigits (number : Binary) (places : Nat) : Nat × Int :=
  if number.significand = 0 then (0, 0)
  else
    let power := number.decimalPower
    let digits := number.rounded (places - power)
    if digits = Nat.pow 10 (places + 1) then (Nat.pow 10 places, power + 1) else (digits, power)

end Binary

namespace Decimal

/-- Digits with zeros in front up to a length. -/
def padded (length : Nat) (digits : Nat) : String :=
  let text := toString digits
  zeros (length - text.length) ++ text

/-- Digits with a point in front of the last `places` ones. Without such digits the point is
written only if it is wanted always. -/
def pointed (digits : Nat) (places : Nat) (keepsPoint : Bool) : String :=
  let text := (padded (places + 1) digits).toList
  let split := text.length - places
  let point := if places = 0 && !keepsPoint then [] else ['.']
  String.ofList (text.take split ++ point ++ text.drop split)

/-- A power of ten behind its mark, with a sign and at least two digits. -/
def powerText (power : Int) : String :=
  "e" ++ (if power < 0 then "-" else "+") ++ padded 2 power.natAbs

/-- A magnitude with a number of digits behind the point. -/
def fixed (number : Binary) (places : Nat) (keepsPoint : Bool) : String :=
  pointed (number.rounded places) places keepsPoint

/-- A magnitude with one digit in front of the point, some behind it, and a power of ten. -/
def exponential (number : Binary) (places : Nat) (keepsPoint : Bool) : String :=
  let (digits, power) := number.leadingDigits places
  pointed digits places keepsPoint ++ powerText power

/-- A text without the zeros at its end, and without the point in front of them. -/
def dropFraction (text : String) : String :=
  if '.' ∈ text.toList then
    let kept := text.toList.reverse.dropWhile (· == '0')
    String.ofList ((if kept.head? == some '.' then kept.tail else kept).reverse)
  else text

/-- A magnitude with a number of digits in all: without a power of ten if its first digit is not
beyond them and not below a ten-thousandth. Zeros at the end are left out unless they are
wanted. -/
def general (number : Binary) (digits : Nat) (keepsZeros : Bool) : String :=
  let count := max digits 1
  let (leading, power) := number.leadingDigits (count - 1)
  let shorten := fun text => if keepsZeros then text else dropFraction text
  if -4 ≤ power ∧ power < count then
    let places := ((count : Int) - 1 - power).toNat
    shorten (pointed (number.rounded places) places keepsZeros)
  else shorten (pointed leading (count - 1) keepsZeros) ++ powerText power

end Decimal

end ShaderVariants
