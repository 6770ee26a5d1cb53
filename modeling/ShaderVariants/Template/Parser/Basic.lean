import ShaderVariants.Iteration
import ShaderVariants.Template.Lexer

/-!
# Parsing templates

A parser consumes tokens from the front and may stop at a fault. A fault of the lexer shows as
soon as the token in front of it is consumed, and not before, so that a fault of the grammar
further in front wins. Every parser knows how many tokens the template has.
-/

namespace ShaderVariants.Template

/-- What reads a value off the front of the tokens. -/
abbrev Parser := ReaderT Nat (StateT Lexed (Except SyntaxFault))

namespace Parser

variable {α : Type}

def fail (fault : SyntaxFault) : Parser α := throw fault

/-- Stops if no token is left but a fault of the lexer. -/
def checkFault : Parser Unit := do
  let lexed ← get
  match lexed.tokens, lexed.fault? with
  | [], some fault => fail fault
  | _, _ => return ()

/-- The first token, or nothing at the end of the template. -/
def current? : Parser (Option Token.Kind) := do
  return (← get).tokens.head?.map Token.kind

/-- The line of the first token. -/
def currentLine : Parser Nat := do
  return ((← get).tokens.head?.map Token.line).getD 1

/-- What a message calls the first token. -/
def currentDescription : Parser String := do
  return ((← current?).map Token.Kind.description).getD "end of template"

/-- Consumes the first token. -/
def advance : Parser Unit := do
  modify fun lexed => { lexed with tokens := lexed.tokens.tail }
  checkFault

/-- The token behind the first one. -/
def following? : Parser (Option Token.Kind) := do
  let lexed ← get
  match lexed.tokens, lexed.fault? with
  | [_], some fault => fail fault
  | tokens, _ => return tokens[1]?.map Token.kind

/-- The first token is the given sign. -/
def isSign (sign : Sign) : Parser Bool := do
  match ← current? with
  | some (.sign found) => return found = sign
  | _ => return false

/-- The first token is one of the given names. -/
def isName (words : List String) : Parser Bool := do
  match ← current? with
  | some (.name found) => return found ∈ words
  | _ => return false

/-- Consumes the given sign if it comes first. -/
def skipSign (sign : Sign) : Parser Bool := do
  let found ← isSign sign
  if found then advance
  return found

/-- Consumes the given name if it comes first. -/
def skipName (word : String) : Parser Bool := do
  let found ← isName [word]
  if found then advance
  return found

/-- Stops because another token was wanted. -/
def failWanting (wanted : String) : Parser α := do
  match ← current? with
  | none => fail (.missingAtEnd wanted)
  | some kind => fail (.unexpectedToken wanted kind.description)

/-- Consumes the given sign. -/
def expectSign (sign : Sign) : Parser Unit := do
  if !(← skipSign sign) then failWanting sign.spelling

/-- Consumes the given name. -/
def expectWord (word : String) : Parser Unit := do
  if !(← skipName word) then failWanting word

/-- Consumes any name. -/
def expectName : Parser String := do
  match ← current? with
  | some (.name word) => advance; return word
  | _ => failWanting "name"

def expectPrintEnd : Parser Unit := do
  match ← current? with
  | some .printEnd => advance
  | _ => failWanting (Token.Kind.printEnd).description

def expectStatementEnd : Parser Unit := do
  match ← current? with
  | some .statementEnd => advance
  | _ => failWanting (Token.Kind.statementEnd).description

/-- Repeats a step until it has no answer. Each answer has to cost a token, so that the number of
tokens bounds the number of rounds. -/
def iterate (step : α → Parser (Option α)) (state : α) : Parser α := do
  iterateWithin step ((← read) + 1) state

end Parser

end ShaderVariants.Template
