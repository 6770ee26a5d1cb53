/-!
# Lines

Two divisions of a text into lines are in use. Reading a file turns every line end into a newline
(`unifyNewlines`), and a report about a text shows one of its lines, where ten further characters
and pairs end a line too (`lines`).
-/

namespace ShaderVariants.Text

/-- Turns a carriage return, alone or with the newline after it, into a newline. -/
def unifyNewlines : List Char → List Char
  | [] => []
  | '\r' :: '\n' :: rest => '\n' :: unifyNewlines rest
  | '\r' :: rest => '\n' :: unifyNewlines rest
  | c :: rest => c :: unifyNewlines rest

def endsLine (c : Char) : Bool :=
  c ∈ ['\n', '\r', '\x0b', '\x0c', '\x1c', '\x1d', '\x1e', '\u0085', '\u2028', '\u2029']

/-- The lines of a text, of which `line` is the beginning of the first one, reversed. The end of
the last line may be missing; after it no further line begins. -/
def linesFrom (line : List Char) : List Char → List (List Char)
  | [] => if line.isEmpty then [] else [line.reverse]
  | '\r' :: '\n' :: rest => line.reverse :: linesFrom [] rest
  | c :: rest =>
    if endsLine c then line.reverse :: linesFrom [] rest else linesFrom (c :: line) rest

def lines (text : String) : List String := (linesFrom [] text.toList).map String.ofList

end ShaderVariants.Text
