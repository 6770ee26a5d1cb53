import ShaderVariants.Scalar.Basic

/-!
# Integer numerals

A numeral is a sequence of digits of some radix, with underscores between or around them, and
perhaps the name of an integer kind behind it. Ten is the radix unless the numeral says `0x`,
`0o` or `0b` in front.
-/

namespace ShaderVariants

/-- A numeral taken apart: radix, digits without underscores, and the kind behind them. -/
structure Numeral where
  radix : Nat
  digits : List Char
  suffix : Option Scalar.Kind
  deriving DecidableEq, Repr

namespace Numeral

/-- The value of a digit; letters of either case count from ten on. -/
def digitValue? (c : Char) : Option Nat :=
  if '0' ≤ c ∧ c ≤ '9' then some (c.toNat - '0'.toNat)
  else if 'a' ≤ c ∧ c ≤ 'f' then some (c.toNat - 'a'.toNat + 10)
  else if 'A' ≤ c ∧ c ≤ 'F' then some (c.toNat - 'A'.toNat + 10)
  else none

def isDigitOf (radix : Nat) (c : Char) : Bool :=
  match digitValue? c with
  | some value => value < radix
  | none => false

/-- What may stand in a numeral of a radix. -/
def isBodyCharacter (radix : Nat) (c : Char) : Bool := c == '_' || isDigitOf radix c

/-- Separates the kind from the end of a numeral. -/
def splitSuffix (cs : List Char) : List Char × Option Scalar.Kind :=
  let suffixed (kind : Scalar.Kind) : Bool := kind.name.toList.isSuffixOf cs
  let body (kind : Scalar.Kind) : List Char := cs.take (cs.length - kind.name.length)
  if suffixed .i32 then (body .i32, some .i32)
  else if suffixed .u32 then (body .u32, some .u32)
  else (cs, none)

/-- The digits behind a radix mark; there must be a digit or an underscore. -/
def digitsBehindMark? (radix : Nat) (cs : List Char) : Option (Nat × List Char) :=
  if !cs.isEmpty && cs.all (isBodyCharacter radix) then some (radix, cs.filter (· != '_')) else none

/-- Radix and digits of a numeral without its suffix. A decimal one begins with a digit. -/
def digits? : List Char → Option (Nat × List Char)
  | '0' :: 'x' :: rest => digitsBehindMark? 16 rest
  | '0' :: 'o' :: rest => digitsBehindMark? 8 rest
  | '0' :: 'b' :: rest => digitsBehindMark? 2 rest
  | c :: rest =>
    if isDigitOf 10 c && rest.all (isBodyCharacter 10) then
      some (10, (c :: rest).filter (· != '_'))
    else none
  | [] => none

/-- The text without a newline at its end. -/
def withoutFinalNewline (cs : List Char) : List Char :=
  if cs.getLast? = some '\n' then cs.dropLast else cs

/-- Takes a numeral apart. A newline behind it does not count. -/
def parse? (text : String) : Option Numeral :=
  let (body, suffix) := splitSuffix (withoutFinalNewline text.toList)
  (digits? body).map fun (radix, digits) => ⟨radix, digits, suffix⟩

/-- Number of digits behind the leading zeros. -/
def significantDigits (numeral : Numeral) : Nat := (numeral.digits.dropWhile (· == '0')).length

/-- The number that the digits write. -/
def value (numeral : Numeral) : Nat :=
  numeral.digits.foldl (fun number c => number * numeral.radix + (digitValue? c).getD 0) 0

end Numeral

end ShaderVariants
