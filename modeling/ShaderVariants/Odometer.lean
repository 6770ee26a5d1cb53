/-!
# Odometers

An odometer is a row of wheels, each with a base and a digit below it. Advancing turns the last
wheel on; a wheel that would reach its base goes back to zero and turns the one before it. When
the first wheel goes back to zero every combination has been visited and the odometer is
exhausted. Without wheels there is one combination, with a wheel of base zero there is none.
-/

namespace ShaderVariants

/-- One wheel. -/
structure Odometer.Wheel where
  base : Nat
  digit : Nat
  deriving DecidableEq, Repr

/-- A row of wheels, and whether all combinations have been visited. -/
structure Odometer where
  wheels : List Odometer.Wheel
  exhausted : Bool
  deriving DecidableEq, Repr

namespace Odometer

def Wheel.zero (base : Nat) : Wheel := ⟨base, 0⟩

/-- The odometer of some bases, at its first combination. -/
def ofBases (bases : List Nat) : Odometer := ⟨bases.map Wheel.zero, bases.any (· == 0)⟩

/-- The first number that cannot be a base, if there is one. -/
def negativeBase? (bases : List Int) : Option Int := bases.find? (· < 0)

/-- Why no odometer has such a base. -/
def negativeBaseMessage (base : Int) : String :=
  s!"Counter bases must be non-negative, got {base}"

def bases (odometer : Odometer) : List Nat := odometer.wheels.map Wheel.base

/-- Number of all combinations. -/
def total (odometer : Odometer) : Nat := odometer.bases.foldl (· * ·) 1

def digits (odometer : Odometer) : List Nat := odometer.wheels.map Wheel.digit

/-- The current combination; there is none when the odometer is exhausted. -/
def current? (odometer : Odometer) : Option (List Nat) :=
  if odometer.exhausted then none else some odometer.digits

/-- Turns the last wheel on. The answer also says whether the first wheel went back to zero. -/
def turn : List Wheel → List Wheel × Bool
  | [] => ([], true)
  | wheel :: rest =>
    match turn rest with
    | (turned, false) => (wheel :: turned, false)
    | (turned, true) =>
      if wheel.digit + 1 < wheel.base then (⟨wheel.base, wheel.digit + 1⟩ :: turned, false)
      else (⟨wheel.base, 0⟩ :: turned, true)

/-- Steps to the next combination, and says whether there is one. An exhausted odometer stays as it
is. -/
def step (odometer : Odometer) : Bool × Odometer :=
  if odometer.exhausted then (false, odometer)
  else
    let (wheels, wrapped) := turn odometer.wheels
    (!wrapped, ⟨wheels, wrapped⟩)

/-- The odometer after a step. -/
def advance (odometer : Odometer) : Odometer := odometer.step.2

/-- Up to `count` combinations from the current one on, and the odometer at the first one that is
not among them. -/
def take : (count : Nat) → Odometer → List (List Nat) × Odometer
  | 0, odometer => ([], odometer)
  | count + 1, odometer =>
    match odometer.current? with
    | none => ([], odometer)
    | some digits =>
      let (others, last) := take count odometer.advance
      (digits :: others, last)

/-- All combinations from the current one on, and the exhausted odometer. -/
def drain (odometer : Odometer) : List (List Nat) × Odometer := odometer.take odometer.total

/-- All combinations of some bases, the last digit changing fastest. -/
def combinations (bases : List Nat) : List (List Nat) := (ofBases bases).drain.1

end Odometer

end ShaderVariants
