import ShaderVariants.Text.Hexadecimal
import ShaderVariants.Text.Printable

/-!
# Quoted text

A quoted text is its characters between two quotation marks on one line. Apostrophes enclose it,
unless it holds an apostrophe and no double quote. A backslash stands before itself and before
the enclosing mark; newline, carriage return and tab have short escapes; every other unprintable
character is written by its code point in two, four or eight hexadecimal digits.
-/

namespace ShaderVariants.Text.Quoted

/-- The mark that encloses a text. -/
def mark (cs : List Char) : Char :=
  if '\'' ∈ cs ∧ '"' ∉ cs then '"' else '\''

/-- A code point as an escape of the least width that holds it. -/
def codeEscape (code : Nat) : List Char :=
  if code ≤ 0xff then '\\' :: 'x' :: hexDigits 2 code
  else if code ≤ 0xffff then '\\' :: 'u' :: hexDigits 4 code
  else '\\' :: 'U' :: hexDigits 8 code

/-- How one character is written between the given marks. -/
def encodeChar (mark c : Char) : List Char :=
  if c = mark ∨ c = '\\' then ['\\', c]
  else if c = '\n' then ['\\', 'n']
  else if c = '\r' then ['\\', 'r']
  else if c = '\t' then ['\\', 't']
  else if isPrintable c then [c]
  else codeEscape c.toNat

/-- The characters between the marks. -/
def body (mark : Char) (cs : List Char) : List Char := cs.flatMap (encodeChar mark)

/-- A text as it is quoted. -/
def encodeChars (cs : List Char) : List Char :=
  mark cs :: (body (mark cs) cs ++ [mark cs])

def encode (text : String) : String := String.ofList (encodeChars text.toList)

end ShaderVariants.Text.Quoted
