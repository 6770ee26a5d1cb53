import ShaderVariants.Text.Blank
import ShaderVariants.Text.CellWidth
import ShaderVariants.Text.Emoji.Names
import ShaderVariants.Text.Lowercase

/-!
# Emoji codes

A code is a word between two colons. If the word is the name of an emoji, the emoji replaces the
code; an ending of the word may ask for its textual or its pictorial form.
-/

namespace ShaderVariants.Text.Emoji

/-- Every other word with the one behind it. -/
def paired : List (List Char) → List (List Char × List Char)
  | name :: emoji :: rest => (name, emoji) :: paired rest
  | _ => []

/-- All emoji by their names. -/
def named : List (List Char × List Char) := paired (words listedNames.toList)

/-- The emoji of a name, in which case does not count. -/
def ofName? (name : List Char) : Option (List Char) := named.lookup (lowercaseFrom [] name)

/-- The character that asks for the textual form of the one in front of it. -/
def textualSelector : Char := '\ufe0e'

/-- Endings of codes, with the characters that they put behind the emoji. -/
def endings : List (List Char × Char) :=
  [(['-', 'e', 'm', 'o', 'j', 'i'], pictorialSelector), (['-', 't', 'e', 'x', 't'], textualSelector)]

/-- The emoji that the word of a code stands for. -/
def ofWord? (word : List Char) : Option (List Char) :=
  match endings.find? fun (ending, _) => ending.isSuffixOf word with
  | some (ending, selector) =>
    (ofName? (word.take (word.length - ending.length))).map (· ++ [selector])
  | none => ofName? word

/-- The text with emoji in place of their codes. A colon belongs to one code at most, also where
the code stays because no emoji has its name. -/
def replaceCodes : List Char → List Char
  | [] => []
  | c :: rest =>
    let word := rest.takeWhile fun c => c ≠ ':' && !isBlank c
    if c = ':' && (rest.drop word.length).head? = some ':' then
      (ofWord? word).getD (':' :: word ++ [':']) ++ replaceCodes (rest.drop (word.length + 1))
    else c :: replaceCodes rest
termination_by cs => cs.length
decreasing_by all_goals simp only [List.length_cons, List.length_drop]; omega

end ShaderVariants.Text.Emoji
