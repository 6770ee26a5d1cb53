import ShaderVariants.Text.Blank
import ShaderVariants.Text.Cluster
import ShaderVariants.Text.Parts

/-!
# Wrapped text

A text that is too wide for a terminal is broken between words, where the blanks stay with the
word in front of them. A word that is too wide for any line is either broken wherever a line is
full, or it has a line to itself and an ellipsis stands for the end of it.
-/

namespace ShaderVariants.Text

/-- What becomes of a word that is too wide for any line. -/
inductive Overflow where
  | fold
  | ellipsis
  deriving DecidableEq, Repr

/-- The columns that characters take. -/
def widthOf (cs : List Char) : Nat := cellWidthFrom none cs

/-- Blanks in a row. -/
def spaces (count : Nat) : List Char := List.replicate count ' '

/-- Columns between two tabulator stops. -/
def tabulator : Nat := 8

/-- A line with blanks in place of tabulators. In front of `part`, which is reversed, there are
`column` columns. -/
def expandTabs (column : Nat) (part : List Char) : List Char → List Char
  | [] => part.reverse
  | c :: rest =>
    if c = '\t' then
      let part := (' ' :: part).reverse
      let column := column + widthOf part
      let more := (tabulator - column % tabulator) % tabulator
      part ++ spaces more ++ expandTabs (column + more) [] rest
    else expandTabs column (c :: part) rest

/-- The words of a text, each with the blanks behind it, and the first one also with those in
front; `word` is the beginning of the first one, reversed, and `isComplete` says that only blanks
may be added to it. -/
def wordsFrom (word : List Char) (isComplete : Bool) : List Char → List (List Char)
  | [] => if word.all isBlank then [] else [word.reverse]
  | c :: rest =>
    if isComplete && !isBlank c then word.reverse :: wordsFrom [c] false rest
    else wordsFrom (c :: word) (isBlank c && !word.all isBlank) rest

/-- Lines so far, the last one apart, and the columns that it takes. -/
structure Wrapped where
  complete : List (List Char)
  last : List Char
  width : Nat

namespace Wrapped

/-- No line yet. -/
def empty : Wrapped := ⟨[], [], 0⟩

/-- The last line is complete, and those of a word follow it. -/
def follow (wrapped : Wrapped) (pieces : List (List Char)) : Wrapped :=
  let complete := if wrapped.last.isEmpty then wrapped.complete
    else wrapped.complete ++ [wrapped.last]
  let last := pieces.getLast?.getD []
  ⟨complete ++ pieces.dropLast, last, widthOf last⟩

def add (overflow : Overflow) (width : Nat) (wrapped : Wrapped) (word : List Char) : Wrapped :=
  let wordWidth := widthOf (dropBlanksRight word)
  if wrapped.width + wordWidth ≤ width then
    ⟨wrapped.complete, wrapped.last ++ word, wrapped.width + widthOf word⟩
  else if width < wordWidth && overflow = .fold then wrapped.follow (chopped width word)
  else wrapped.follow [word]

end Wrapped

/-- A line without those of the blanks at its end that stand beyond the width. -/
def trimBeyond (width : Nat) (line : List Char) : List Char :=
  let blanks := line.length - (dropBlanksRight line).length
  line.take (line.length - min blanks (line.length - width))

/-- The lines that a line of a text is broken into. Words that are too wide are not cut yet. -/
def brokenLine (overflow : Overflow) (width : Nat) (line : List Char) : List (List Char) :=
  let lines := match wordsFrom [] false line with
    | [] => [line]
    | words =>
      let wrapped := words.foldl (Wrapped.add overflow width) .empty
      wrapped.complete ++ [wrapped.last]
  lines.map (trimBeyond width)

/-- The lines that a text is broken into. Words that are too wide are not cut yet. -/
def brokenLines (overflow : Overflow) (width : Nat) (text : String) : List (List Char) :=
  (parts '\n' text.toList).flatMap fun line =>
    brokenLine overflow width (expandTabs 0 [] line)

/-- A line without what is too wide. -/
def cut (overflow : Overflow) (width : Nat) (line : List Char) : List Char :=
  if widthOf line ≤ width then line
  else match overflow with
    | .fold => fitting width (clusters line)
    | .ellipsis => fitting (width - 1) (clusters line) ++ ['…']

/-- The lines that a text takes within a width. -/
def wrap (width : Nat) (text : String) : List String :=
  (brokenLines .fold width text).map fun line => String.ofList (cut .fold width line)

end ShaderVariants.Text
