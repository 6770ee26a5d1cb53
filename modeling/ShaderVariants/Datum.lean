import ShaderVariants.Decimal.Written
import ShaderVariants.Scalar.Basic
import ShaderVariants.Text.Quoted

/-!
# Loosely typed data

What a configuration file or a caller may supply before anyone has checked of which type it is.
Only truth values and integers can become scalars.
-/

namespace ShaderVariants

/-- What a moment consists of. -/
inductive Moment where
  | date
  | time
  | dateWithTime
  deriving DecidableEq, Repr

/-- A piece of data of any type. Moments are known by their text. -/
inductive Datum where
  | none
  | bool (value : Bool)
  | integer (value : Int)
  | real (value : Float)
  | text (value : String)
  | moment (moment : Moment) (value : String)
  | list (items : List Datum)
  | table (entries : List (String × Datum))
  deriving Inhabited

namespace Datum

mutual

/-- The data as messages spell them. -/
def written : Datum → String
  | none => "None"
  | bool value => (Literal.bool value).written
  | integer value => (Literal.integer value).written
  | real value => writtenReal value
  | text value => Text.Quoted.encode value
  | moment _ value => value
  | list items => "[" ++ String.intercalate ", " (writtenAll items) ++ "]"
  | table entries => "\x7b" ++ String.intercalate ", " (writtenEntries entries) ++ "\x7d"

def writtenAll : List Datum → List String
  | [] => []
  | item :: items => written item :: writtenAll items

/-- The entries of a table as messages spell them. -/
def writtenEntries : List (String × Datum) → List String
  | [] => []
  | (key, value) :: entries =>
    (Text.Quoted.encode key ++ ": " ++ written value) :: writtenEntries entries

end

/-- The data count as true: they are not zero, not false and not empty. -/
def isTrue : Datum → Bool
  | none => false
  | bool value => value
  | integer value => value ≠ 0
  | real value => value != 0
  | text value => value ≠ ""
  | moment _ _ => true
  | list items => !items.isEmpty
  | table entries => !entries.isEmpty

/-- The entries of a table, if the data are one. -/
def entries? : Datum → Option (List (String × Datum))
  | table entries => some entries
  | _ => Option.none

/-- The text that the data are, if they are one. -/
def text? : Datum → Option String
  | text value => some value
  | _ => Option.none

/-- What messages call the type of the data. -/
def typeName : Datum → String
  | none => "NoneType"
  | bool _ => "bool"
  | integer _ => "int"
  | real _ => "float"
  | text _ => "str"
  | moment .date _ => "datetime.date"
  | moment .time _ => "datetime.time"
  | moment .dateWithTime _ => "datetime.datetime"
  | list _ => "list"
  | table _ => "dict"

/-- The data hold other data. -/
def isContainer : Datum → Bool
  | list _ => true
  | table _ => true
  | _ => false

/-- The literal that the data are, if they are one. -/
def literal? : Datum → Option Literal
  | bool value => some (.bool value)
  | integer value => some (.integer value)
  | _ => Option.none

end Datum

/-- What is wrong with data as a value of the given kind, if anything is. -/
def Scalar.Kind.misfitOf? (kind : Kind) (datum : Datum) : Option Misfit :=
  match datum.literal? with
  | some literal => kind.misfit? literal
  | none => some (kind.misfitOfOther datum.written)

end ShaderVariants
