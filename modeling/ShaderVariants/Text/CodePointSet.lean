/-!
# Sets of code points

A character class of a standard is a list of closed intervals of code points in ascending order.
Membership walks the list and stops at the first interval that begins beyond the character, so
that a character near the front is decided after a few steps.
-/

namespace ShaderVariants.Text

/-- Closed intervals of code points, in ascending order and apart from each other. -/
structure CodePointSet where
  intervals : List (Nat × Nat)

namespace CodePointSet

/-- Some interval of an ascending list contains the code point. -/
def covers (code : Nat) : List (Nat × Nat) → Bool
  | [] => false
  | (first, last) :: rest =>
    if code < first then false
    else if code ≤ last then true
    else covers code rest

/-- The class of a character: its code point lies in one of the intervals. -/
def contains (set : CodePointSet) (c : Char) : Bool := covers c.toNat set.intervals

end CodePointSet

end ShaderVariants.Text
