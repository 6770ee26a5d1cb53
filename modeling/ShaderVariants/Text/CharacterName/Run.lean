import ShaderVariants.Text.Blank
import ShaderVariants.Text.Parts

/-!
# Runs of names

Consecutive code points often have similar names. A run lists the names of consecutive code
points, and leaves out the words with which a name begins like the one in front of it.
-/

namespace ShaderVariants.Text.CharacterName

/-- Names of consecutive code points. Semicolons separate them. In front of each stands the number
of words that are left out, and only there blanks may be added. -/
structure Run where
  first : Nat
  names : String

/-- The code point of a name, if it is among those listed from a code point on; `before` are the
words of the name in front of them. -/
def search? (name : List Char) (code : Nat) (before : List (List Char)) :
    List (List Char) → Option Nat
  | [] => none
  | listed :: rest =>
    match listed.dropWhile isBlank with
    | [] => none
    | count :: added =>
      let words := before.take (count.toNat - '0'.toNat) ++ parts ' ' added
      if [' '].intercalate words = name then some code else search? name (code + 1) words rest

def Run.code? (run : Run) (name : List Char) : Option Nat :=
  search? name run.first [] (parts ';' run.names.toList)

end ShaderVariants.Text.CharacterName
