import ShaderVariants.Decimal.Reading
import ShaderVariants.Template.Token
import ShaderVariants.Text.DecimalDigit
import ShaderVariants.Text.Escape

/-!
# Literals of templates

Numbers and strings between the marks of a print or a statement. Each reader looks at the front
of a text and tells what stands there and how many characters it takes. The digits of an integer
behind its first one may be those of any script.
-/

namespace ShaderVariants.Template.Literal

/-- Length of a run of digits, where one underscore may stand in front of each digit. -/
def runLength (isDigit : Char → Bool) : List Char → Nat
  | '_' :: c :: rest => if isDigit c then runLength isDigit rest + 2 else 0
  | c :: rest => if isDigit c then runLength isDigit rest + 1 else 0
  | [] => 0

/-- Length of digits with single underscores between them. -/
def groupLength (cs : List Char) : Nat :=
  match cs with
  | c :: rest =>
    if Text.isDecimalDigit c then runLength Text.isDecimalDigit rest + 1 else 0
  | [] => 0

/-- Length of a point with digits behind it. -/
def fractionLength : List Char → Nat
  | '.' :: rest => if groupLength rest = 0 then 0 else groupLength rest + 1
  | _ => 0

def powerLength : List Char → Nat
  | c :: rest =>
    if c = 'e' ∨ c = 'E' then
      match rest with
      | '+' :: digits => if groupLength digits = 0 then 0 else groupLength digits + 2
      | '-' :: digits => if groupLength digits = 0 then 0 else groupLength digits + 2
      | digits => if groupLength digits = 0 then 0 else groupLength digits + 1
    else 0
  | [] => 0

/-- The value of a digit: a decimal one of any script, or a letter that goes on counting. -/
def digitValue? (c : Char) : Option Nat := Text.decimalValue? c <|> Text.hexValue? c

/-- The number that digits of a radix write. Underscores do not count. -/
def number (radix : Nat) (cs : List Char) : Nat :=
  (cs.filterMap digitValue?).foldl (fun value digit => radix * value + digit) 0

/-- The real number at the front of a text: digits, and a fraction or a power of ten behind
them. Only digits of ASCII are accepted, but those of other scripts belong to it as well. -/
def real? (cs : List Char) : Option (Except SyntaxFault Float × Nat) :=
  let whole := groupLength cs
  let fraction := fractionLength (cs.drop whole)
  let power := powerLength (cs.drop (whole + fraction))
  if whole = 0 ∨ fraction + power = 0 then none
  else
    let length := whole + fraction + power
    let written := (cs.take length).filter (· != '_')
    match written.find? fun c => 128 ≤ c.toNat with
    | some digit => some (.error (.foreignDigit digit), length)
    | none => some (.ok (readReal written), length)

/-- The digits of a radix. Those beyond the decimal ones of ASCII are digits of sixteen only. -/
def isDigitOf (radix : Nat) (c : Char) : Bool :=
  if radix = 16 then (digitValue? c).isSome else (Text.hexValue? c).any (· < radix)

/-- The radix that a letter behind a zero announces. -/
def radix? (c : Char) : Option Nat :=
  if c = 'b' ∨ c = 'B' then some 2
  else if c = 'o' ∨ c = 'O' then some 8
  else if c = 'x' ∨ c = 'X' then some 16
  else none

def radixInteger? : List Char → Option (Nat × Nat)
  | '0' :: letter :: rest =>
    match radix? letter with
    | none => none
    | some radix =>
      let length := runLength (isDigitOf radix) rest
      if length = 0 then none else some (number radix (rest.take length), length + 2)
  | _ => none

/-- The integer at the front of a text. A zero is followed by zeros only. -/
def integer? (cs : List Char) : Option (Nat × Nat) :=
  match radixInteger? cs, cs with
  | some found, _ => some found
  | none, c :: rest =>
    if c = '0' then some (0, runLength (· == '0') rest + 1)
    else if Decimal.isDigit c then
      let length := runLength Text.isDecimalDigit rest + 1
      some (number 10 (cs.take length), length)
    else none
  | none, [] => none

/-- Number of characters up to the given quotation mark. Two characters behind a backslash
belong together. -/
def lengthToQuote? (quote : Char) : List Char → Option Nat
  | '\\' :: _ :: rest => (lengthToQuote? quote rest).map (· + 2)
  | ['\\'] => none
  | c :: rest => if c = quote then some 0 else (lengthToQuote? quote rest).map (· + 1)
  | [] => none

/-- The string at the front of a text, between quotation marks of one of two kinds. -/
def string? : List Char → Option (Except Text.Escape.Problem String × Nat)
  | c :: rest =>
    if c = '\'' ∨ c = '"' then
      (lengthToQuote? c rest).map fun length =>
        let body := Text.Escape.decodeChars (Text.Escape.toAscii (rest.take length))
        (body.map String.ofList, length + 2)
    else none
  | [] => none

end ShaderVariants.Template.Literal
