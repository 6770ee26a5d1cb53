import ShaderVariants.Decimal.Limit
import ShaderVariants.Position
import ShaderVariants.Text.Quoted

/-!
# Faults of TOML documents

What can be wrong with a document, and where. The place of a fault is known by the number of
characters from there to the end; messages give its line and column.
-/

namespace ShaderVariants.Toml

/-- A dotted key, part by part. It leads from one table through others to an entry. -/
abbrev Key := List String

/-- The parts of a key in parentheses; a comma follows a part that is alone. -/
def shownKey : Key → String
  | [part] => "(" ++ Text.Quoted.encode part ++ ",)"
  | key => "(" ++ String.intercalate ", " (key.map Text.Quoted.encode) ++ ")"

/-- What is wrong with a document. -/
inductive Problem where
  | noStatement
  | statementGoesOn
  | noKey
  | noEquals
  | noValue
  | tableNotClosed
  | tableListNotClosed
  | unclosedArray
  | unclosedInlineTable
  | declaredTwice (key : Key)
  | reopened (key : Key)
  | immutable (key : Key)
  | overwritten
  | repeatedInlineKey (part : String)
  | noMoment
  | unclosedText
  | missing (mark : String)
  | foreignCharacter (c : Char)
  | illegalCharacter (c : Char)
  | unknownEscape
  | badHexadecimal
  | noCharacter
  | tooManyDigits (count : Nat)
  deriving DecidableEq, Repr

def Problem.message : Problem → String
  | noStatement => "Invalid statement"
  | statementGoesOn => "Expected newline or end of document after a statement"
  | noKey => "Invalid initial character for a key part"
  | noEquals => "Expected '=' after a key in a key/value pair"
  | noValue => "Invalid value"
  | tableNotClosed => "Expected ']' at the end of a table declaration"
  | tableListNotClosed => "Expected ']]' at the end of an array declaration"
  | unclosedArray => "Unclosed array"
  | unclosedInlineTable => "Unclosed inline table"
  | declaredTwice key => s!"Cannot declare {shownKey key} twice"
  | reopened key => s!"Cannot redefine namespace {shownKey key}"
  | immutable key => s!"Cannot mutate immutable namespace {shownKey key}"
  | overwritten => "Cannot overwrite a value"
  | repeatedInlineKey part => s!"Duplicate inline table key {Text.Quoted.encode part}"
  | noMoment => "Invalid date or datetime"
  | unclosedText => "Unterminated string"
  | missing mark => s!"Expected {Text.Quoted.encode mark}"
  | foreignCharacter c => s!"Found invalid character {Text.Quoted.encode (String.singleton c)}"
  | illegalCharacter c => s!"Illegal character {Text.Quoted.encode (String.singleton c)}"
  | unknownEscape => "Unescaped '\\' in a string"
  | badHexadecimal => "Invalid hex value"
  | noCharacter => "Escaped character is not a Unicode scalar value"
  | tooManyDigits count => Decimal.oversizedNumeralMessage count

/-- A problem, and the number of characters from its place to the end of the document. -/
structure Fault where
  problem : Problem
  remaining : Nat
  deriving DecidableEq, Repr

namespace Fault

def place (fault : Fault) (document : List Char) : String :=
  if fault.remaining = 0 then "end of document"
  else
    let before := document.take (document.length - fault.remaining)
    let position := Position.start.after before
    s!"line {position.line}, column {position.column}"

/-- The fault in words, with its place. -/
def message (fault : Fault) (document : List Char) : String :=
  s!"{fault.problem.message} (at {fault.place document})"

end Fault

end ShaderVariants.Toml
