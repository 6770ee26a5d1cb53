/-!
# Arithmetic progressions

The integers from a first one up to, or down to, a bound that is not reached itself, in equal
steps. Length, membership and single members follow from the three numbers alone.
-/

namespace ShaderVariants

/-- Integers from `start` on, `step` apart, in front of `stop`. A step of zero leads nowhere. -/
structure Progression where
  start : Int
  stop : Int
  step : Int
  deriving DecidableEq, Repr

namespace Progression

/-- Number of members. -/
def length (progression : Progression) : Nat :=
  let ⟨start, stop, step⟩ := progression
  if 0 < step then ((stop - start + step - 1) / step).toNat
  else if step < 0 then ((start - stop - step - 1) / (-step)).toNat
  else 0

/-- The member behind a number of others. -/
def term (progression : Progression) (index : Nat) : Int :=
  progression.start + progression.step * index

/-- All members in their order. -/
def toList (progression : Progression) : List Int :=
  (List.range progression.length).map progression.term

/-- An integer is a member. -/
def contains (progression : Progression) (value : Int) : Bool :=
  let ⟨start, stop, step⟩ := progression
  let isBetween := if 0 < step then start ≤ value && value < stop
    else stop < value && value ≤ start
  isBetween && (value - start) % step == 0

/-- The member at a place, which a negative number counts from the end. -/
def get? (progression : Progression) (index : Int) : Option Int :=
  let length : Int := progression.length
  let place := if 0 ≤ index then index else length + index
  if 0 ≤ place ∧ place < length then some (progression.term place.toNat) else none

/-- A place among `count` others and at the end of them, where a negative number counts from the
end. What is beyond either end counts as that end. -/
def place (first last : Int) (count : Nat) (index : Int) : Int :=
  max first (min last (if index < 0 then index + count else index))

/-- The places from one place up to, or down to, another one, that is not reached itself, among
`count` of them. Bounds that are not given are the ends. -/
def places (count : Nat) (start stop : Option Int) (step : Int) : Progression :=
  let first : Int := if step < 0 then -1 else 0
  let last : Int := if step < 0 then count - 1 else count
  ⟨start.elim (if step < 0 then last else first) (place first last count),
    stop.elim (if step < 0 then first else last) (place first last count), step⟩

def select (progression places : Progression) : Progression :=
  let ⟨start, _, step⟩ := progression
  ⟨start + step * places.start, start + step * places.stop, step * places.step⟩

/-- Both progressions have the same members. -/
def agrees (first second : Progression) : Bool :=
  first.length == second.length
    && (first.length == 0 || (first.start == second.start
      && (first.length == 1 || first.step == second.step)))

end Progression

end ShaderVariants
