import ShaderVariants.Text.Escape
import ShaderVariants.Toml.Reader

/-!
# Texts and keys of TOML

A text stands between apostrophes, as it is, or between quotation marks, where a backslash begins
an escape. Three marks in a row enclose a text of several lines, which may also end with one or
two of them. A key is one part or several ones with dots between them; a part is a bare word or a
text of one line.
-/

namespace ShaderVariants.Toml

/-- The character of a short escape, by the letter behind the backslash. -/
def shortEscape? : Char → Option Char
  | 'b' => some '\x08'
  | 't' => some '\t'
  | 'n' => some '\n'
  | 'f' => some '\x0c'
  | 'r' => some '\r'
  | '"' => some '"'
  | '\\' => some '\\'
  | _ => none

def isBareKey (c : Char) : Bool := c.isAlphanum || c == '-' || c == '_'

def beginsKey (c : Char) : Bool := isBareKey c || c == '"' || c == '\''

namespace Reader

/-- The character whose code point the next digits write. -/
def hexadecimal (width : Nat) : Reader (List Char) := do
  match Text.hexNumber? width (← get) with
  | none => fail .badHexadecimal
  | some code =>
    skip width
    match Text.Escape.character? code with
    | some c => return [c]
    | none => fail .noCharacter

/-- Passes over the blanks behind a backslash that joins lines, of which the first one has been
consumed. -/
def joinLines (first : Char) : Reader (List Char) := do
  if first ≠ '\n' then
    skipSpaces
    match ← peek? with
    | none => return []
    | some '\n' => skip 1
    | some _ => fail .unknownEscape
  skipWhile isSpaceOrNewline
  return []

def escape (severalLines : Bool) : Reader (List Char) := do
  skip 1
  let letter? ← peek?
  skip 1
  match letter? with
  | none => fail .unknownEscape
  | some 'u' => hexadecimal 4
  | some 'U' => hexadecimal 8
  | some letter =>
    if severalLines && isSpaceOrNewline letter then joinLines letter
    else
      match shortEscape? letter with
      | some c => return [c]
      | none => fail .unknownEscape

/-- The rest of a text between quotation marks, with what closes it; `closing` is known by the
number of marks. -/
def quotedBody (severalLines : Bool) : Reader String := do
  let closing := if severalLines then "\"\"\"" else "\""
  let isIllegal := if severalLines then isControlButNewline else isControl
  let reversed ← iterate (fun reversed => do
    if ← isAt closing then return none
    match ← peek? with
    | none => fail .unclosedText
    | some '\\' => return some ((← escape severalLines).reverse ++ reversed)
    | some c =>
      if isIllegal c then fail (.illegalCharacter c)
      skip 1
      return some (c :: reversed)) []
  skip closing.length
  return String.ofList reversed.reverse

/-- A text of one line between apostrophes. -/
def literalText : Reader String := do
  skip 1
  return String.ofList (← takeUntil "'" isControl)

/-- A text of one line between quotation marks. -/
def quotedText : Reader String := do
  skip 1
  quotedBody false

/-- One or two more marks at the end of a text of several lines belong to it. -/
def moreMarks (mark : String) (text : String) : Reader String := do
  if ← skipText mark then
    if ← skipText mark then return text ++ mark ++ mark
    return text ++ mark
  return text

/-- A text of several lines. A newline right behind the marks does not count. -/
def longText (mark : String) : Reader String := do
  skip 3
  let _ ← skipText "\n"
  if mark = "'" then
    moreMarks mark (String.ofList (← takeUntil "'''" isControlButNewline))
  else moreMarks mark (← quotedBody true)

def keyPart : Reader String := do
  match ← peek? with
  | some '\'' => literalText
  | some '"' => quotedText
  | some c =>
    if isBareKey c then return String.ofList (← takeWhile isBareKey)
    fail .noKey
  | none => fail .noKey

/-- A key, and the spaces behind it. -/
def key : Reader Key := do
  let first ← keyPart
  skipSpaces
  let reversed ← iterate (fun reversed => do
    if ← skipText "." then
      skipSpaces
      let part ← keyPart
      skipSpaces
      return some (part :: reversed)
    else return none) [first]
  return reversed.reverse

end Reader

end ShaderVariants.Toml
