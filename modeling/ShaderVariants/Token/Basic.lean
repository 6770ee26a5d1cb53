import ShaderVariants.ParseError

/-!
# Tokens

The words and marks of a declaration text. Seven words are keywords and eight characters are
symbols. Each token remembers the line and the column at which it begins.
-/

namespace ShaderVariants

/-- Words that no declaration may use as a name. -/
inductive Keyword where
  | pubWord
  | valueEnumWord
  | variantsWord
  | fromWord
  | asWord
  | trueWord
  | falseWord
  deriving DecidableEq, Repr

namespace Keyword

def all : List Keyword :=
  [pubWord, valueEnumWord, variantsWord, fromWord, asWord, trueWord, falseWord]

/-- How a keyword is written. -/
def spelling : Keyword → String
  | pubWord => "pub"
  | valueEnumWord => "value_enum"
  | variantsWord => "variants"
  | fromWord => "from"
  | asWord => "as"
  | trueWord => "true"
  | falseWord => "false"

def ofSpelling? (word : String) : Option Keyword :=
  all.find? fun keyword => keyword.spelling == word

end Keyword

/-- Characters that are tokens by themselves. -/
inductive PunctuationMark where
  | colon
  | comma
  | equals
  | minus
  | leftParen
  | rightParen
  | leftBrace
  | rightBrace
  deriving DecidableEq, Repr

namespace PunctuationMark

def all : List PunctuationMark :=
  [colon, comma, equals, minus, leftParen, rightParen, leftBrace, rightBrace]

def character : PunctuationMark → Char
  | colon => ':'
  | comma => ','
  | equals => '='
  | minus => '-'
  | leftParen => '('
  | rightParen => ')'
  | leftBrace => '\x7b'
  | rightBrace => '\x7d'

def ofCharacter? (c : Char) : Option PunctuationMark := all.find? fun mark => mark.character == c

end PunctuationMark

/-- The kinds of tokens. -/
inductive Token.Kind where
  | identifier
  | string
  | number
  | keyword (keyword : Keyword)
  | mark (mark : PunctuationMark)
  | endOfInput
  deriving DecidableEq, Repr

/-- How messages name a kind of token: by its spelling where it has only one. -/
def Token.Kind.label : Token.Kind → String
  | .identifier => "IDENTIFIER"
  | .string => "STRING"
  | .number => "NUMBER"
  | .keyword word => word.spelling
  | .mark symbol => String.singleton symbol.character
  | .endOfInput => "EOF"

/-- A token with its text, which for a string is what the quotes enclose, and the place where it
begins. -/
structure Token where
  kind : Token.Kind
  text : String
  line : Nat
  column : Nat
  deriving DecidableEq, Repr

namespace Token

def fault (token : Token) (cause : Fault.Cause) : Fault := ⟨cause, token.line, token.column⟩

/-- A token as messages describe it. -/
def description (token : Token) : String :=
  match token.kind with
  | .endOfInput => "end of input"
  | .string => s!"string \"{token.text}\""
  | _ => s!"'{token.text}'"

end Token

end ShaderVariants
