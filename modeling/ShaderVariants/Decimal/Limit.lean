/-!
# Long decimals

Converting between integers and decimal digits takes time that grows with the square of their
number. Numerals and integers of very many digits are therefore refused, whatever their value
would be: zeros in front count as digits too.
-/

namespace ShaderVariants.Decimal

/-- Greatest number of digits that are converted. -/
def conversionLimit : Nat := 4300

/-- A numeral has more digits than are converted. -/
def isOversized (digits : List Char) : Bool := conversionLimit < digits.length

/-- An integer has more digits than are written. -/
def exceedsWriting (value : Int) : Bool := Nat.pow 10 conversionLimit ≤ value.natAbs

/-- The advice to those who need more digits. -/
def limitAdvice : String := "use sys.set_int_max_str_digits() to increase the limit"

/-- The refusal of a numeral in words. -/
def oversizedNumeralMessage (digits : Nat) : String :=
  s!"Exceeds the limit ({conversionLimit} digits) for integer string conversion: "
    ++ s!"value has {digits} digits; {limitAdvice}"

/-- The refusal to write an integer in words. -/
def oversizedIntegerMessage : String :=
  s!"Exceeds the limit ({conversionLimit} digits) for integer string conversion; {limitAdvice}"

end ShaderVariants.Decimal
