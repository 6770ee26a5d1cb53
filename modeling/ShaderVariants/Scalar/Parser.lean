import ShaderVariants.Decimal.Limit
import ShaderVariants.Scalar.Numeral
import ShaderVariants.Token.Stream

/-!
# Reading kinds and literals

A literal is read for a declared kind and checked at once, so that a fault can name the
declaration and the key that the literal belongs to.
-/

namespace ShaderVariants

namespace Parser

def scalarKind : Parser Scalar.Kind := do
  let token ← current
  match if token.kind = .identifier then Scalar.Kind.ofName? token.text else none with
  | some kind =>
    let _ ← advance
    return kind
  | none => fail token (.unknownKind token.text)

/-- More digits than this, leading zeros apart, no number of 32 bits has in any radix. -/
def digitLimit : Nat := 32

/-- The digits of a numeral are decimal ones, and more of them than are converted. -/
def isUnconvertible (numeral : Numeral) : Bool :=
  numeral.radix == 10 && Decimal.isOversized numeral.digits

/-- The scalar that a numeral writes. Faults of its form show at `number`, those of its value at
`first`, which may be a sign in front of it. -/
def integerScalar (kind : Scalar.Kind) (owner key : String) (first number : Token)
    (negative : Bool) : Except Refusal Scalar :=
  let refuse (token : Token) (cause : Fault.Cause) : Except Refusal Scalar :=
    .error (.fault (token.fault cause))
  let malformed := refuse number (.malformedInteger owner key number.text)
  match Numeral.parse? number.text with
  | none => malformed
  | some numeral =>
    if numeral.suffix.any (· ≠ kind) then
      refuse number (.foreignSuffix owner key (numeral.suffix.getD kind) kind)
    else if numeral.digits.isEmpty then malformed
    else if digitLimit < numeral.significantDigits then
      refuse first (.endlessInteger owner key number.text kind)
    else if isUnconvertible numeral then .error (.oversizedNumeral numeral.digits.length)
    else
      let value : Int := if negative then -(numeral.value : Int) else numeral.value
      match Scalar.ofLiteral kind (.integer value) with
      | .ok scalar => .ok scalar
      | .error misfit => refuse first (.misfitLiteral owner key misfit kind)

/-- Answers with a value, or refuses, without consuming anything. -/
def ofExcept {α : Type} (answer : Except Refusal α) : Parser α := fun stream =>
  ⟨answer, stream, .refl stream⟩

/-- Reads a literal of a kind, for a key of a declaration or variant. -/
def literal (kind : Scalar.Kind) (owner key : String) : Parser Scalar := do
  let first ← current
  if ← isAt [.keyword .trueWord, .keyword .falseWord] then
    if kind = .bool then
      let _ ← advance
      return Scalar.ofBool (first.kind = .keyword .trueWord)
    else fail first (.boolForInteger owner key first.text kind)
  else if !(← isAt [.number, .mark .minus]) then
    fail first (.noLiteral owner key first.text kind)
  else if kind = .bool then fail first (.integerForBool owner key)
  else
    let negative ← isAt [.mark .minus]
    if negative then
      let _ ← advance
    let number ← expect .number "integer literal"
    ofExcept (integerScalar kind owner key first number negative)

end Parser

end ShaderVariants
