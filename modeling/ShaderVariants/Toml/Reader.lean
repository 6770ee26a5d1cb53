import ShaderVariants.Iteration
import ShaderVariants.Toml.Fault

/-!
# Reading TOML

A reader consumes characters from the front and may stop at a fault. Gaps hold spaces, tabs and
comments, and between the items of an array newlines too.
-/

namespace ShaderVariants.Toml

/-- What reads a value off the front of a document. -/
abbrev Reader := StateT (List Char) (Except Fault)

def isSpace (c : Char) : Bool := c == ' ' || c == '\t'

def isSpaceOrNewline (c : Char) : Bool := isSpace c || c == '\n'

/-- A control character that no line may hold. -/
def isControl (c : Char) : Bool := (c < ' ' && c != '\t') || c == '\x7f'

/-- A control character that not even a text of several lines may hold. -/
def isControlButNewline (c : Char) : Bool := isControl c && c != '\n'

/-- Splits characters in front of the first place where a text begins, if there is one. -/
def splitAtText? (text : List Char) : List Char → Option (List Char × List Char)
  | [] => none
  | c :: rest =>
    if text.isPrefixOf (c :: rest) then some ([], c :: rest)
    else (splitAtText? text rest).map fun (before, after) => (c :: before, after)

namespace Reader

variable {α : Type}

/-- Stops at a problem that shows in front of what is left. -/
def fail (problem : Problem) : Reader α := do throw ⟨problem, (← get).length⟩

/-- The next character, or nothing at the end. -/
def peek? : Reader (Option Char) := do return (← get).head?

/-- Consumes some characters. -/
def skip (count : Nat) : Reader Unit := modify fun cs => cs.drop count

/-- A text comes next. -/
def isAt (text : String) : Reader Bool := do return text.toList.isPrefixOf (← get)

/-- Consumes a text if it comes next. -/
def skipText (text : String) : Reader Bool := do
  let found ← isAt text
  if found then skip text.length
  return found

/-- Consumes the characters of a class. -/
def takeWhile (isMember : Char → Bool) : Reader (List Char) := do
  let cs ← get
  set (cs.dropWhile isMember)
  return cs.takeWhile isMember

/-- Passes over the characters of a class. -/
def skipWhile (isMember : Char → Bool) : Reader Unit := modify fun cs => cs.dropWhile isMember

/-- Passes over spaces and tabs. -/
def skipSpaces : Reader Unit := skipWhile isSpace

/-- Stops at the first of some consumed characters that is foreign; `rest` is what follows
them. -/
def checkForeign (isForeign : Char → Bool) (rest : List Char) (cs : List Char) : Reader Unit := do
  match cs.dropWhile fun c => !isForeign c with
  | [] => return ()
  | c :: later => throw ⟨.foreignCharacter c, 1 + later.length + rest.length⟩

/-- Consumes the characters in front of a text, and the text itself. -/
def takeUntil (text : String) (isForeign : Char → Bool) : Reader (List Char) := do
  match splitAtText? text.toList (← get) with
  | none =>
    set ([] : List Char)
    fail (.missing text)
  | some (cs, rest) =>
    checkForeign isForeign rest cs
    set (rest.drop text.length)
    return cs

/-- Passes over a comment, if one comes next. -/
def skipComment : Reader Unit := do
  if ← skipText "#" then
    let cs ← takeWhile fun c => c != '\n'
    checkForeign isControl (← get) cs

/-- Repeats a step until it has no answer. Each answer has to cost a character, so that the
characters bound the number of rounds. -/
def iterate (step : α → Reader (Option α)) (state : α) : Reader α := do
  iterateWithin step ((← get).length + 1) state

/-- Passes over spaces, newlines and comments. -/
def skipGap : Reader Unit :=
  iterate (fun _ => do
    skipWhile isSpaceOrNewline
    if ← isAt "#" then
      skipComment
      return some ()
    else return none) ()

end Reader

end ShaderVariants.Toml
