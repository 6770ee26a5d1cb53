import ShaderVariants.Decimal.Shortest
import ShaderVariants.Rounding

/-!
# Nearest numbers of binary floating point

A fraction is rounded to the nearest number of binary floating point, and in the middle between
two of them to the one with the even significand. From halfway above the greatest finite number on
the nearest one is infinity.
-/

namespace ShaderVariants.Binary

/-- The greatest power of two that is not above a fraction, as its exponent. -/
def floorLog (numerator denominator : Nat) : Int :=
  let estimate : Int := (numerator.log2 : Int) - denominator.log2
  let isBelow := numerator * Nat.pow 2 (-estimate).toNat < denominator * Nat.pow 2 estimate.toNat
  if isBelow then estimate - 1 else estimate

/-- Bits of positive infinity. Those of all smaller numbers are smaller. -/
def infinityBits : Nat := 0x7ff * Nat.pow 2 52

/-- The bits of the number that is nearest to a fraction. Consecutive numbers have consecutive
bits, so that a significand that is rounded up to the next power of two needs no special care. -/
def nearestBits (numerator denominator : Nat) : Nat :=
  if numerator = 0 then 0
  else
    let exponent := max (-1074) (floorLog numerator denominator - 52)
    let significand :=
      roundQuotient (numerator * Nat.pow 2 (-exponent).toNat)
        (denominator * Nat.pow 2 exponent.toNat)
    min infinityBits ((exponent + 1074).toNat * Nat.pow 2 52 + significand)

/-- The floating-point number nearest to a fraction, which may be negative. -/
def nearest (isNegative : Bool) (numerator denominator : Nat) : Float :=
  let sign := if isNegative then Nat.pow 2 63 else 0
  Float.ofBits (UInt64.ofNat (sign + nearestBits numerator denominator))

/-- The floating-point number nearest to an integer. -/
def ofInteger (value : Int) : Float := nearest (value < 0) value.natAbs 1

end ShaderVariants.Binary
