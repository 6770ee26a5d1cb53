import ShaderVariants.Decimal.Limit
import ShaderVariants.Text.Quoted

/-!
# Template tokens

A template is a sequence of tokens: text that is copied, and between the marks of a print or a
statement, names, literals and operators. Messages call every token by its description.
-/

namespace ShaderVariants.Template

/-- Operators and punctuation. -/
inductive Sign where
  | plus
  | minus
  | times
  | divide
  | floorDivide
  | modulo
  | power
  | tilde
  | equal
  | unequal
  | less
  | lessEqual
  | greater
  | greaterEqual
  | assign
  | leftParen
  | rightParen
  | leftBracket
  | rightBracket
  | leftBrace
  | rightBrace
  | dot
  | colon
  | pipe
  | comma
  | semicolon
  deriving DecidableEq, Repr

namespace Sign

/-- All signs, the longer ones first, so that none hides another one that it begins. -/
def all : List Sign :=
  [floorDivide, power, equal, unequal, lessEqual, greaterEqual, plus, minus, times, divide, modulo,
    tilde, less, greater, assign, leftParen, rightParen, leftBracket, rightBracket, leftBrace,
    rightBrace, dot, colon, pipe, comma, semicolon]

/-- How a sign is written. -/
def spelling : Sign → String
  | plus => "+"
  | minus => "-"
  | times => "*"
  | divide => "/"
  | floorDivide => "//"
  | modulo => "%"
  | power => "**"
  | tilde => "~"
  | equal => "=="
  | unequal => "!="
  | less => "<"
  | lessEqual => "<="
  | greater => ">"
  | greaterEqual => ">="
  | assign => "="
  | leftParen => "("
  | rightParen => ")"
  | leftBracket => "["
  | rightBracket => "]"
  | leftBrace => "\x7b"
  | rightBrace => "\x7d"
  | dot => "."
  | colon => ":"
  | pipe => "|"
  | comma => ","
  | semicolon => ";"

/-- The sign that a text begins with. -/
def beginning? (cs : List Char) : Option Sign :=
  all.find? fun sign => sign.spelling.toList.isPrefixOf cs

/-- The bracket that closes a given one. -/
def closing? : Sign → Option Sign
  | leftParen => some rightParen
  | leftBracket => some rightBracket
  | leftBrace => some rightBrace
  | _ => none

def isClosing (sign : Sign) : Bool := sign ∈ [rightParen, rightBracket, rightBrace]

end Sign

/-- What a token is, with what it says. -/
inductive Token.Kind where
  | data (text : String)
  | printBegin
  | printEnd
  | statementBegin
  | statementEnd
  | name (word : String)
  | text (value : String)
  | integer (value : Nat)
  | real (value : Float)
  | sign (mark : Sign)

/-- What a message calls a token. -/
def Token.Kind.description : Token.Kind → String
  | .data _ => "template data / text"
  | .printBegin => "begin of print statement"
  | .printEnd => "end of print statement"
  | .statementBegin => "begin of statement block"
  | .statementEnd => "end of statement block"
  | .name word => word
  | .text _ => "string"
  | .integer _ => "integer"
  | .real _ => "float"
  | .sign mark => mark.spelling

/-- A token and the line at which it begins. -/
structure Token where
  kind : Token.Kind
  line : Nat

/-- Why a template is no template. -/
inductive SyntaxFault where
  | unexpectedCharacter (c : Char) (offset : Nat)
  | unexpectedClosing (found : Sign)
  | mismatchedClosing (found wanted : Sign)
  | badName
  | badEscape (message : String)
  | oversizedNumeral (digits : Nat)
  | foreignDigit (digit : Char)
  | unclosedComment
  | unclosedRaw
  | unexpectedToken (wanted found : String)
  | missingAtEnd (wanted : String)
  | noExpression (found : String)
  | noOperand (found : String)
  | noTagName
  | noAttribute
  | chainedTests
  | badArguments
  | nestedSlice
  | notAssignable (kind : String)
  | unknownTag (name : String) (wanted : List String) (nested : Bool) (innermost : Option String)
  | endInBlock (wanted : List String) (innermost : Option String)
  | tooDeep
  deriving DecidableEq, Repr

namespace SyntaxFault

def kindName : SyntaxFault → String
  | oversizedNumeral _ => "ValueError"
  | foreignDigit _ => "SyntaxError"
  | nestedSlice => "SyntaxError"
  | tooDeep => "RecursionError"
  | _ => "TemplateSyntaxError"

def alternatives (names : List String) : String :=
  String.intercalate " or " (names.map Text.Quoted.encode)

/-- The sentence about the block that is open, if one is. -/
def innermostText : Option String → List String
  | some name => ["The innermost block that needs to be closed is " ++ Text.Quoted.encode name ++ "."]
  | none => []

def message : SyntaxFault → String
  | unexpectedCharacter c offset =>
    "unexpected char " ++ Text.Quoted.encode (String.singleton c) ++ s!" at {offset}"
  | unexpectedClosing found => s!"unexpected '{found.spelling}'"
  | mismatchedClosing found wanted =>
    s!"unexpected '{found.spelling}', expected '{wanted.spelling}'"
  | badName => "Invalid character in identifier"
  | badEscape message => message
  | oversizedNumeral digits => Decimal.oversizedNumeralMessage digits
  | foreignDigit digit =>
    let code := String.ofList ((Nat.toDigits 16 digit.toNat).map Char.toUpper)
    let padded := String.ofList (List.replicate (4 - code.length) '0') ++ code
    s!"invalid character '{digit}' (U+{padded}) (<unknown>, line 1)"
  | unclosedComment => "Missing end of comment tag"
  | unclosedRaw => "Missing end of raw directive"
  | unexpectedToken wanted found =>
    "expected token " ++ Text.Quoted.encode wanted ++ ", got " ++ Text.Quoted.encode found
  | missingAtEnd wanted =>
    "unexpected end of template, expected " ++ Text.Quoted.encode wanted ++ "."
  | noExpression found => "Expected an expression, got " ++ Text.Quoted.encode found
  | noOperand found => "unexpected " ++ Text.Quoted.encode found
  | noTagName => "tag name expected"
  | noAttribute => "expected name or number"
  | chainedTests => "You cannot chain multiple tests with is"
  | badArguments => "invalid syntax for function call expression"
  | nestedSlice => "invalid syntax"
  | notAssignable kind => "can't assign to " ++ Text.Quoted.encode kind
  | unknownTag name wanted nested innermost =>
    let unknown := "Encountered unknown tag " ++ Text.Quoted.encode name ++ "."
    let looking :=
      if wanted.isEmpty then []
      else if nested then
        ["You probably made a nesting mistake. Jinja is expecting this tag, but currently "
          ++ "looking for " ++ alternatives wanted ++ "."]
      else ["Jinja was looking for the following tags: " ++ alternatives wanted ++ "."]
    String.intercalate " " ([unknown] ++ looking ++ innermostText innermost)
  | endInBlock wanted innermost =>
    let looking :=
      if wanted.isEmpty then []
      else ["Jinja was looking for the following tags: " ++ alternatives wanted ++ "."]
    String.intercalate " " (["Unexpected end of template."] ++ looking ++ innermostText innermost)
  | tooDeep => "maximum recursion depth exceeded"

end SyntaxFault

end ShaderVariants.Template
