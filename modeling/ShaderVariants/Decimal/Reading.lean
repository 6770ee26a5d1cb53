import ShaderVariants.Binary.Nearest

/-!
# Reading reals

A real number is read from its sign, its digits, the digits behind its point, and its power of
ten. It is the number of binary floating point that is nearest to what is written.
-/

namespace ShaderVariants

namespace Decimal

def isDigit (c : Char) : Bool := '0' ≤ c ∧ c ≤ '9'

/-- The number that decimal digits write. -/
def number (cs : List Char) : Nat :=
  cs.foldl (fun value c => 10 * value + (c.toNat - '0'.toNat)) 0

/-- Digits behind a point, and what follows them. -/
def splitFraction : List Char → List Char × List Char
  | '.' :: rest => (rest.takeWhile isDigit, rest.dropWhile isDigit)
  | rest => ([], rest)

/-- A power of ten behind its mark. -/
def powerOf : List Char → Int
  | _ :: '-' :: digits => -(number digits : Int)
  | _ :: '+' :: digits => number digits
  | _ :: digits => number digits
  | [] => 0

/-- The decimal that is written without a sign. -/
def ofChars (cs : List Char) : Decimal :=
  let whole := cs.takeWhile isDigit
  let (fraction, rest) := splitFraction (cs.dropWhile isDigit)
  ⟨number (whole ++ fraction), powerOf rest - fraction.length⟩

/-- A greatest power of ten: with any digits but zero it is beyond all floating-point numbers, and
its inverse is below them. -/
def farPower : Nat := 400

/-- The floating-point number nearest to a decimal. Powers beyond the far ones, by as much as the
digits may make up for, change nothing. -/
def toReal (decimal : Decimal) : Float :=
  let lowest : Int := -((farPower + decimal.digits.log2 : Nat) : Int)
  let exponent := max lowest (min (farPower : Int) decimal.exponent)
  Binary.nearest false (decimal.digits * Nat.pow 10 exponent.toNat)
    (Nat.pow 10 (-exponent).toNat)

end Decimal

/-- The real number that is written, perhaps behind a sign. -/
def readReal : List Char → Float
  | '-' :: rest => -(Decimal.ofChars rest).toReal
  | '+' :: rest => (Decimal.ofChars rest).toReal
  | cs => (Decimal.ofChars cs).toReal

end ShaderVariants
