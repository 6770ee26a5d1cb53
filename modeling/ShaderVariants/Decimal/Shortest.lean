/-!
# Shortest decimals

A binary floating-point number stands for an interval of reals, those that round to it. Its
shortest decimal is the point of that interval with the fewest digits, and of those with equally
many the one nearest to the number itself. The search goes through ever finer decimal grids; on
each of them only the two neighbours of the number can be nearest.
-/

namespace ShaderVariants

/-- A nonnegative finite number of binary floating point, `significand * 2 ^ exponent`. Below a
power of two the gap to the next number is only half the gap above it. -/
structure Binary where
  significand : Nat
  exponent : Int
  narrowBelow : Bool
  deriving DecidableEq, Repr

/-- A nonnegative decimal number, `digits * 10 ^ exponent`. -/
structure Decimal where
  digits : Nat
  exponent : Int
  deriving DecidableEq, Repr

namespace Binary

/-- The magnitude of a finite number, given by its bits. -/
def ofBits (bits : UInt64) : Binary :=
  let biased := ((bits >>> 52) &&& 0x7ff).toNat
  let fraction := (bits &&& 0xfffffffffffff).toNat
  if biased = 0 then ⟨fraction, -1074, false⟩
  else ⟨Nat.pow 2 52 + fraction, (biased : Int) - 1075, fraction = 0 && 1 < biased⟩

/-- Compares a decimal with `multiple * 2 ^ exponent`. -/
def compareScaled (decimal : Decimal) (multiple : Nat) (exponent : Int) : Ordering :=
  compare (decimal.digits * Nat.pow 10 decimal.exponent.toNat * Nat.pow 2 (-exponent).toNat)
    (multiple * Nat.pow 2 exponent.toNat * Nat.pow 10 (-decimal.exponent).toNat)

/-- The decimal lies among the reals that round to the number: between the midpoints to its
neighbours, which count themselves if the significand is even. -/
def readsBack (number : Binary) (decimal : Decimal) : Bool :=
  let below := if number.narrowBelow then 4 * number.significand - 1
    else 4 * number.significand - 2
  let above := 4 * number.significand + 2
  let inclusive := number.significand % 2 == 0
  let lower := compareScaled decimal below (number.exponent - 2)
  let upper := compareScaled decimal above (number.exponent - 2)
  (lower == .gt || (inclusive && lower == .eq)) && (upper == .lt || (inclusive && upper == .eq))

/-- The number divided by `10 ^ exponent`, rounded down. -/
def floorOnGrid (number : Binary) (exponent : Int) : Nat :=
  (number.significand * Nat.pow 2 number.exponent.toNat * Nat.pow 10 (-exponent).toNat)
    / (Nat.pow 2 (-number.exponent).toNat * Nat.pow 10 exponent.toNat)

/-- The nearer one of a grid point below the number and the next one above it; if both are
equally near, the one with the even digits. -/
def nearer (number : Binary) (below above : Decimal) : Decimal :=
  let middle : Decimal := ⟨5 * (below.digits + above.digits), below.exponent - 1⟩
  match compareScaled middle number.significand number.exponent with
  | .lt => above
  | .gt => below
  | .eq => if below.digits % 2 = 0 then below else above

/-- The point of a grid that is nearest to the number among those that read back. -/
def onGrid? (number : Binary) (exponent : Int) : Option Decimal :=
  let below : Decimal := ⟨number.floorOnGrid exponent, exponent⟩
  let above : Decimal := ⟨below.digits + 1, exponent⟩
  match number.readsBack below, number.readsBack above with
  | true, true => some (number.nearer below above)
  | true, false => some below
  | false, true => some above
  | false, false => none

/-- A power of ten above the number, with no more than a few to spare. -/
def scale (number : Binary) : Int :=
  ((number.significand.log2 : Int) + 1 + number.exponent) * 30103 / 100000 + 2

/-- The exact value of the number as a decimal. -/
def exactly (number : Binary) : Decimal :=
  ⟨number.significand * Nat.pow 2 number.exponent.toNat * Nat.pow 5 (-number.exponent).toNat,
    min number.exponent 0⟩

end Binary

namespace Decimal

/-- Moves the zeros at the end of the digits into the exponent. The bound is on their number. -/
def stripZeros : Nat → Decimal → Decimal
  | 0, decimal => decimal
  | bound + 1, decimal =>
    if decimal.digits ≠ 0 ∧ decimal.digits % 10 = 0 then
      stripZeros bound ⟨decimal.digits / 10, decimal.exponent + 1⟩
    else decimal

/-- The shortest decimal that reads back as a number. Zero has one digit. -/
def shortest (number : Binary) : Decimal :=
  if number.significand = 0 then ⟨0, 0⟩
  else
    let grids := (List.range 24).map fun (step : Nat) => number.scale - step
    let found := (grids.findSome? number.onGrid?).getD number.exactly
    found.stripZeros found.digits

end Decimal

end ShaderVariants
