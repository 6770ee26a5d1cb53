import ShaderVariants.Path
import ShaderVariants.Scalar.Basic
import ShaderVariants.Text.Lines
import ShaderVariants.Text.Quoted

/-!
# Faults in a declaration text

A `Fault` is what is wrong with a declaration text, as a cause, and where. A `ParseError` is how
a fault is reported: the words, the file, and the line of the text that the fault stands in, with
a mark below it. One thing makes a text unreadable that is no fault at a place of it, a decimal
numeral of too many digits; a `Refusal` is either.
-/

namespace ShaderVariants

/-- What is wrong with a declaration text. Words taken from the text are kept as they stand
there; `owner` says which declaration or variant a literal belongs to. -/
inductive Fault.Cause where
  | unclosedComment
  | unclosedString
  | strayCharacter (c : Char)
  | unexpectedToken (wanted found : String)
  | reservedWord (word role : String)
  | unclosedList (close : String)
  | noDeclaration (found : String)
  | unknownKind (found : String)
  | boolForInteger (owner key word : String) (kind : Scalar.Kind)
  | integerForBool (owner key : String)
  | noLiteral (owner key found : String) (kind : Scalar.Kind)
  | malformedInteger (owner key numeral : String)
  | foreignSuffix (owner key : String) (suffix kind : Scalar.Kind)
  | endlessInteger (owner key numeral : String) (kind : Scalar.Kind)
  | misfitLiteral (owner key : String) (misfit : Scalar.Misfit) (kind : Scalar.Kind)
  | noVariantBody (variant found : String)
  | sharedCrossProduct (declaration : String)
  | repeatedShared (declaration : String)
  deriving DecidableEq, Repr

/-- A cause and the line and column, counted from one, at which it shows. -/
structure Fault where
  cause : Fault.Cause
  line : Nat
  column : Nat
  deriving DecidableEq, Repr

/-- Why a text is not read to its end: a fault of it, or a decimal numeral of more digits than
are converted. -/
inductive Refusal where
  | fault (fault : Fault)
  | oversizedNumeral (digits : Nat)
  deriving DecidableEq, Repr

namespace Fault.Cause

def message : Cause → String
  | unclosedComment => "Unterminated block comment"
  | unclosedString => "Unterminated string literal"
  | strayCharacter c => s!"Unexpected character: {Text.Quoted.encode (String.singleton c)}"
  | unexpectedToken wanted found => s!"Expected {wanted}, got {found}"
  | reservedWord word role =>
    s!"'{word}' is a reserved keyword and cannot be used as {role}"
  | unclosedList close => s!"Unexpected end of input, expected '{close}'"
  | noDeclaration found => s!"Expected either 'value_enum' or 'variants', got '{found}'"
  | unknownKind found => s!"Expected bool, i32 or u32 as scalar kind, got '{found}'"
  | boolForInteger owner key word kind =>
    s!"Literal kind mismatch in {owner}: '{key}' is declared {kind.name} "
      ++ s!"but got bool literal '{word}'"
  | integerForBool owner key =>
    s!"Literal kind mismatch in {owner}: '{key}' is declared bool but got integer literal"
  | noLiteral owner key found kind =>
    s!"Expected {kind.name} literal for '{key}' in {owner}, got '{found}'"
  | malformedInteger owner key numeral =>
    s!"Invalid integer literal '{numeral}' for '{key}' in {owner}"
  | foreignSuffix owner key suffix kind =>
    s!"Literal kind mismatch in {owner}: '{key}' is declared {kind.name} "
      ++ s!"but the literal has suffix '{suffix.name}'"
  | endlessInteger owner key numeral kind =>
    s!"Invalid literal for '{key}' in {owner}: "
      ++ s!"literal '{String.ofList (numeral.toList.take 16)}...' is out of range for {kind.name}"
  | misfitLiteral owner key misfit _ =>
    s!"Invalid literal for '{key}' in {owner}: {misfit.message}"
  | noVariantBody variant found =>
    s!"Expected '\x7b' or '(' after variant '{variant}', got '{found}'"
  | sharedCrossProduct declaration =>
    s!"'shared' block of variants '{declaration}' must use hardcoded definitions, "
      ++ "not a cross product"
  | repeatedShared declaration => s!"Duplicate 'shared' block in variants '{declaration}'"

/-- What was expected instead, where the cause tells. -/
def expected : Cause → Option String
  | unclosedComment => some "*/"
  | unclosedString => some "\""
  | strayCharacter _ => none
  | unexpectedToken wanted _ => some wanted
  | reservedWord _ role => some role
  | unclosedList close => some s!"'{close}'"
  | noDeclaration _ => some "'value_enum' or 'variants'"
  | unknownKind _ => some "bool, i32 or u32"
  | boolForInteger _ _ _ kind => some s!"{kind.name} literal"
  | integerForBool _ _ => some "true or false"
  | noLiteral _ _ _ kind => some s!"{kind.name} literal"
  | malformedInteger _ _ _ => some "integer literal"
  | foreignSuffix _ _ _ kind => some s!"{kind.name} literal"
  | endlessInteger _ _ _ kind => some s!"{kind.name} literal"
  | misfitLiteral _ _ _ kind => some s!"{kind.name} literal"
  | noVariantBody _ _ => some "'\x7b' or '('"
  | sharedCrossProduct _ => some "'\x7b'"
  | repeatedShared _ => none

end Fault.Cause

/-- A fault as it is reported. -/
structure ParseError where
  summary : String
  expected : Option String
  file : Path
  line : Int
  column : Int
  snippet : Option String
  deriving DecidableEq, Repr

namespace ParseError

/-- The line of a text of the given number, if there is one. -/
def lineOf (text : String) (line : Int) : Option String :=
  if 0 < line then (Text.lines text)[(line - 1).toNat]? else none

/-- Reports what is wrong at a place; without a text no line is shown. -/
def make (summary : String) (file : Path) (line column : Int) (expected : Option String)
    (text : Option String) : ParseError where
  summary := summary
  expected := expected
  file := file
  line := line
  column := column
  snippet := text.bind fun text => lineOf text line

/-- A line number, aligned to the right in four columns. -/
def lineNumber (line : Int) : String :=
  let digits := toString line
  String.ofList (List.replicate (4 - digits.length) ' ') ++ digits

/-- The shown line with a mark below the column. -/
def excerpt (error : ParseError) (snippet : String) : String :=
  let margin := lineNumber error.line ++ " | "
  let indent := (margin.length + error.column - 1).toNat
  margin ++ snippet ++ "\n" ++ String.ofList (List.replicate indent ' ') ++ "^^^"

/-- Where the fault is: file, line, column, and the line itself if it is known. -/
def context (error : ParseError) : String :=
  let place := s!"{error.file}:{error.line}:{error.column}"
  match error.snippet with
  | some snippet => place ++ "\n" ++ error.excerpt snippet
  | none => place

/-- The whole report. -/
def message (error : ParseError) : String := error.context ++ "\n" ++ error.summary

end ParseError

/-- Reports a fault of a text; without the text no line is shown. -/
def Fault.report (fault : Fault) (file : Path) (text : Option String) : ParseError :=
  ParseError.make fault.cause.message file fault.line fault.column fault.cause.expected text

end ShaderVariants
