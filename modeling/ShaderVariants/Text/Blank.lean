import ShaderVariants.Text.CodePointSet

/-!
# Blanks

The characters that separate words: the plain space, the controls that move the cursor, the
information separators, and the spaces and line separators of Unicode.
-/

namespace ShaderVariants.Text

def blanks : CodePointSet := ⟨[
    (0x9, 0xd), (0x1c, 0x20), (0x85, 0x85), (0xa0, 0xa0), (0x1680, 0x1680), (0x2000, 0x200a),
    (0x2028, 0x2029), (0x202f, 0x202f), (0x205f, 0x205f), (0x3000, 0x3000)]⟩

def isBlank (c : Char) : Bool := blanks.contains c

/-- The text without the blanks at its end. -/
def dropBlanksRight (cs : List Char) : List Char := (cs.reverse.dropWhile isBlank).reverse

/-- The text without the blanks at both ends. -/
def trim (cs : List Char) : List Char := dropBlanksRight (cs.dropWhile isBlank)

/-- The words that blanks separate; `word` is the beginning of the first one, reversed. -/
def wordsAfter (word : List Char) : List Char → List (List Char)
  | [] => if word.isEmpty then [] else [word.reverse]
  | c :: rest =>
    if !isBlank c then wordsAfter (c :: word) rest
    else if word.isEmpty then wordsAfter [] rest
    else word.reverse :: wordsAfter [] rest

/-- The words of a text, which blanks separate. -/
def words (cs : List Char) : List (List Char) := wordsAfter [] cs

end ShaderVariants.Text
