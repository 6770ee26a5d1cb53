/-!
# Hexadecimal numbers

Code points and bytes are written with a fixed number of hexadecimal digits, in lower case. Where
such a number is read, the case of its digits does not count.
-/

namespace ShaderVariants.Text

/-- The digit of a value below sixteen, in lower case. -/
def hexDigit (value : Nat) : Char := Nat.digitChar value

/-- The last `width` hexadecimal digits of a number. -/
def hexDigits : (width : Nat) → Nat → List Char
  | 0, _ => []
  | width + 1, value => hexDigits width (value / 16) ++ [hexDigit (value % 16)]

/-- The value of a hexadecimal digit. -/
def hexValue? (c : Char) : Option Nat :=
  if '0' ≤ c ∧ c ≤ '9' then some (c.toNat - '0'.toNat)
  else if 'a' ≤ c ∧ c ≤ 'f' then some (c.toNat - 'a'.toNat + 10)
  else if 'A' ≤ c ∧ c ≤ 'F' then some (c.toNat - 'A'.toNat + 10)
  else none

/-- The number that exactly `width` hexadecimal digits write. -/
def hexNumber? (width : Nat) (cs : List Char) : Option Nat := do
  let values ← (cs.take width).mapM hexValue?
  if values.length = width then
    return values.foldl (fun number value => 16 * number + value) 0
  else none

end ShaderVariants.Text
