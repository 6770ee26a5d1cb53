import ShaderVariants.Datum
import ShaderVariants.Toml.Pattern

/-!
# Dates and times of TOML

A moment is a date, a time of the day, or both, and then perhaps with its distance from universal
time. Of a date only the month and the range of the day are part of the pattern; whether the
month has that day is asked afterwards.
-/

namespace ShaderVariants.Toml

/-- A day of the calendar. -/
structure Date where
  year : Nat
  month : Nat
  day : Nat
  deriving DecidableEq, Repr

namespace Date

/-- Years with a day more. -/
def isLeap (year : Nat) : Bool := year % 4 == 0 && (year % 100 != 0 || year % 400 == 0)

def daysOf (year month : Nat) : Nat :=
  if month = 2 then (if isLeap year then 29 else 28)
  else if month ∈ [4, 6, 9, 11] then 30
  else 31

/-- The calendar has the day. It begins with the year one. -/
def isValid (date : Date) : Bool :=
  1 ≤ date.year && 1 ≤ date.day && date.day ≤ daysOf date.year date.month

end Date

namespace Pattern

def date : Pattern Date := do
  let year ← digits 4
  let _ ← char '-'
  let month ← twoDigits 1 12
  let _ ← char '-'
  return ⟨year, month, ← twoDigits 1 31⟩

/-- Digits of a fraction of a second. -/
def fraction : Pattern Unit := do
  let _ ← char '.'
  let _ ← one Decimal.isDigit
  modify fun cs => cs.dropWhile Decimal.isDigit

def time : Pattern Unit := do
  let _ ← twoDigits 0 23
  let _ ← char ':'
  let _ ← twoDigits 0 59
  let _ ← char ':'
  let _ ← twoDigits 0 59
  let _ ← optional fraction

/-- The mark of universal time, or a distance from it. -/
def offset : Pattern Unit := do
  let sign ← one fun c => c ∈ ['Z', 'z', '+', '-']
  if sign = '+' ∨ sign = '-' then
    let _ ← twoDigits 0 23
    let _ ← char ':'
    let _ ← twoDigits 0 59

def timeOfDate : Pattern Unit := do
  let _ ← one fun c => c ∈ ['T', 't', ' ']
  time
  let _ ← optional offset

def dateWithTime : Pattern (Date × Moment) := do
  let day ← date
  match ← optional timeOfDate with
  | none => return (day, .date)
  | some _ => return (day, .dateWithTime)

end Pattern

end ShaderVariants.Toml
