import ShaderVariants.Decimal.Reading

/-!
# Patterns

A pattern takes its characters off the front of a text, or does not fit. Nothing is consumed when
it does not fit, so that another one may be tried.
-/

namespace ShaderVariants.Toml

/-- What fits the front of a text and leaves the rest. -/
abbrev Pattern := StateT (List Char) Option

namespace Pattern

variable {α : Type}

/-- One character of a class. -/
def one (isMember : Char → Bool) : Pattern Char := fun cs =>
  match cs with
  | [] => none
  | c :: rest => if isMember c then some (c, rest) else none

/-- The given character. -/
def char (wanted : Char) : Pattern Char := one fun c => c == wanted

/-- What fits a pattern, or nothing. -/
def optional (pattern : Pattern α) : Pattern (Option α) := fun cs =>
  match pattern cs with
  | some (value, rest) => some (some value, rest)
  | none => some (none, cs)

/-- The characters that fit a pattern, with what it makes of them. -/
def withText (pattern : Pattern α) : Pattern (α × List Char) := fun cs =>
  match pattern cs with
  | some (value, rest) => some ((value, cs.take (cs.length - rest.length)), rest)
  | none => none

/-- A number of exactly `count` digits. -/
def digits (count : Nat) : Pattern Nat := fun cs =>
  let found := cs.take count
  if found.length = count ∧ found.all Decimal.isDigit then
    some (Decimal.number found, cs.drop count)
  else none

/-- A number of two digits within limits. -/
def twoDigits (least greatest : Nat) : Pattern Nat := do
  let value ← digits 2
  if least ≤ value ∧ value ≤ greatest then return value else failure

/-- Further digits of a number; before each of them an underscore may stand. -/
def digitsBehind (isMember : Char → Bool) : List Char → List Char × List Char
  | '_' :: c :: rest =>
    if isMember c then
      let (found, rest) := digitsBehind isMember rest
      (c :: found, rest)
    else ([], '_' :: c :: rest)
  | c :: rest =>
    if isMember c then
      let (found, rest) := digitsBehind isMember rest
      (c :: found, rest)
    else ([], c :: rest)
  | [] => ([], [])

/-- Digits in groups, with single underscores between the groups. -/
def groups (isFirst isMember : Char → Bool) : Pattern (List Char) := do
  let first ← one isFirst
  let (found, rest) := digitsBehind isMember (← get)
  set rest
  return first :: found

end Pattern

end ShaderVariants.Toml
