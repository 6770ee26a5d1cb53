import ShaderVariants.Decimal.Shortest

/-!
# Written reals

A real number is written with the fewest digits that read back as it: with a decimal point and a
digit behind it if the first digit stands for at least a ten-thousandth and less than ten to the
sixteenth, and otherwise with an exponent of at least two digits and its sign.
-/

namespace ShaderVariants

namespace Decimal

def zeros (count : Nat) : String := String.ofList (List.replicate count '0')

/-- Digits with a point somewhere among them, in front of them or behind them. -/
def positional (digits : String) (exponent : Int) : String :=
  let point := (digits.length : Int) + exponent
  if 0 ≤ exponent then digits ++ zeros exponent.toNat ++ ".0"
  else if 0 < point then
    let split := point.toNat
    String.ofList (digits.toList.take split) ++ "."
      ++ String.ofList (digits.toList.drop split)
  else "0." ++ zeros (-point).toNat ++ digits

/-- Digits with a point behind the first one, if there are more, and a power of ten. -/
def scientific (digits : String) (power : Int) : String :=
  let first := String.ofList (digits.toList.take 1)
  let others := String.ofList (digits.toList.drop 1)
  let fraction := if others = "" then "" else "." ++ others
  let magnitude := toString power.natAbs
  let padded := zeros (2 - magnitude.length) ++ magnitude
  first ++ fraction ++ "e" ++ (if power < 0 then "-" else "+") ++ padded

def written (decimal : Decimal) : String :=
  let digits := toString decimal.digits
  let power := (digits.length : Int) - 1 + decimal.exponent
  if -4 ≤ power ∧ power < 16 then positional digits decimal.exponent
  else scientific digits power

end Decimal

def writtenReal (value : Float) : String :=
  if value.isNaN then "nan"
  else
    let sign := if value.toBits >>> 63 = 1 then "-" else ""
    if value.isInf then sign ++ "inf"
    else sign ++ (Decimal.shortest (Binary.ofBits value.toBits)).written

end ShaderVariants
