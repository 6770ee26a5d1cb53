/-!
# Positions

A place in a text is known by the number of characters before it and by its line and column, both
counted from one. Only a newline begins a line.
-/

namespace ShaderVariants

/-- A place in a text: the characters before it, and its line and column counted from one. -/
structure Position where
  offset : Nat
  line : Nat
  column : Nat
  deriving DecidableEq, Repr

namespace Position

/-- Where a text begins. -/
def start : Position := ⟨0, 1, 1⟩

/-- The place behind one more character. Only a newline begins a line. -/
def step (position : Position) (c : Char) : Position :=
  if c = '\n' then ⟨position.offset + 1, position.line + 1, 1⟩
  else ⟨position.offset + 1, position.line, position.column + 1⟩

/-- The place behind some more characters. -/
def after (position : Position) (cs : List Char) : Position := cs.foldl step position

end Position

end ShaderVariants
