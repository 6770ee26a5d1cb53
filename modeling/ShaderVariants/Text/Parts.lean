/-!
# Parts of a text

A text is divided at all places where a certain character separates its parts. There is one part
more than there are separators, and parts may be empty.
-/

namespace ShaderVariants.Text

/-- The parts between separators; `part` is the beginning of the first one, reversed. -/
def partsAfter (separator : Char) (part : List Char) : List Char → List (List Char)
  | [] => [part.reverse]
  | c :: rest =>
    if c = separator then part.reverse :: partsAfter separator [] rest
    else partsAfter separator (c :: part) rest

def parts (separator : Char) (cs : List Char) : List (List Char) := partsAfter separator [] cs

end ShaderVariants.Text
