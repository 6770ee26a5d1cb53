import ShaderVariants.Text.Lowercase

/-!
# Snake case

Names in lower case with underscores between their words. A word begins where a capital follows a
small letter or a digit, and where a capital with a small letter behind it follows another
capital. Only the letters and digits of ASCII decide this, while all letters are lower-cased.
-/

namespace ShaderVariants.Name

/-- A word begins at `c`, between `previous` and `next`. -/
def beginsWord (previous : Option Char) (c : Char) (next : Option Char) : Bool :=
  c.isUpper &&
    (previous.any (fun before => before.isLower || before.isDigit)
      || previous.any Char.isUpper && next.any Char.isLower)

/-- Puts underscores between the words of what follows `previous`. -/
def separateWords (previous : Option Char) : List Char → List Char
  | [] => []
  | c :: rest =>
    let tail := c :: separateWords (some c) rest
    if beginsWord previous c rest.head? then '_' :: tail else tail

def toSnakeCase (name : String) : String :=
  Text.lowercase (String.ofList (separateWords none name.toList))

end ShaderVariants.Name
