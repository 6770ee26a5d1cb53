import ShaderVariants.Text.CharacterName.Aliases
import ShaderVariants.Text.CharacterName.Alphabets
import ShaderVariants.Text.CharacterName.Ancient
import ShaderVariants.Text.CharacterName.EastAsia
import ShaderVariants.Text.CharacterName.Notation
import ShaderVariants.Text.CharacterName.Pictures
import ShaderVariants.Text.CharacterName.Scripts
import ShaderVariants.Text.CharacterName.Signs
import ShaderVariants.Text.CharacterName.Symbols
import ShaderVariants.Text.CodePointSet
import ShaderVariants.Text.Hexadecimal

/-!
# Character names

The names that Unicode 14 gives to characters. Syllables of Hangul and ideographs have names by
rules: those of the letters that a syllable is made of, and the code point of an ideograph. All
other names are listed. In listed names the case of letters does not count.
-/

namespace ShaderVariants.Text.CharacterName

/-! ## Names by rules -/

def behind? (beginning : String) (cs : List Char) : Option (List Char) :=
  if beginning.toList.isPrefixOf cs then some (cs.drop beginning.length) else none

/-- Names of the consonants that a syllable begins with. -/
def initials : List String := ["G", "GG", "N", "D", "DD", "R", "M", "B", "BB", "S", "SS", "", "J",
  "JJ", "C", "K", "T", "P", "H"]

/-- Names of the vowels of syllables. -/
def vowels : List String := ["A", "AE", "YA", "YAE", "EO", "E", "YEO", "YE", "O", "WA", "WAE", "OE",
  "YO", "U", "WEO", "WE", "WI", "YU", "EU", "YI", "I"]

/-- Names of the consonants that a syllable ends with, if it does. -/
def finals : List String := ["", "G", "GG", "GS", "N", "NJ", "NH", "D", "L", "LG", "LM", "LB", "LS",
  "LT", "LP", "LH", "M", "B", "BS", "S", "SS", "NG", "J", "C", "K", "T", "P", "H"]

/-- The longest of names that a text begins with: its index, and the rest of the text. -/
def longest? (names : List String) (cs : List Char) : Option (Nat × List Char) :=
  let matching := names.zipIdx.filterMap fun (name, index) => (behind? name cs).map (index, ·)
  matching.foldl
    (fun best? named => match best? with
      | none => some named
      | some best => if named.2.length < best.2.length then some named else some best)
    none

/-- The code point of the syllable of Hangul whose letters have these names. -/
def syllable? (letters : List Char) : Option Nat := do
  let (initial, rest) ← longest? initials letters
  let (vowel, rest) ← longest? vowels rest
  let (final, rest) ← longest? finals rest
  if rest.isEmpty then
    some (0xac00 + (initial * vowels.length + vowel) * finals.length + final)
  else none

/-- Ideographs that several languages share. -/
def unifiedIdeographs : CodePointSet := ⟨[
    (0x3400, 0x4dbf), (0x4e00, 0x9fff), (0x20000, 0x2a6df), (0x2a700, 0x2b738),
    (0x2b740, 0x2b81d), (0x2b820, 0x2cea1), (0x2ceb0, 0x2ebe0), (0x30000, 0x3134a)]⟩

/-- The number that four or five hexadecimal digits write, in upper case. -/
def codeNumber? (digits : List Char) : Option Nat :=
  if (digits.length = 4 || digits.length = 5) && !digits.any Char.isLower then
    hexNumber? digits.length digits
  else none

/-- The code point of a shared ideograph with a number. -/
def unifiedIdeograph? (digits : List Char) : Option Nat := do
  let code ← codeNumber? digits
  if CodePointSet.covers code unifiedIdeographs.intervals then some code else none

/-- Beginnings of names that end in the code point. -/
def numbered : List (String × CodePointSet) := [
  ("CJK COMPATIBILITY IDEOGRAPH-", ⟨[(0xf900, 0xfa6d), (0xfa70, 0xfad9), (0x2f800, 0x2fa1d)]⟩),
  ("KHITAN SMALL SCRIPT CHARACTER-", ⟨[(0x18b00, 0x18cd5)]⟩),
  ("NUSHU CHARACTER-", ⟨[(0x1b170, 0x1b2fb)]⟩)]

/-- The code point of a name that ends in it, which has no more digits than it needs. -/
def numberedCode? (name : List Char) : Option Nat :=
  numbered.findSome? fun (beginning, codes) => do
    let digits ← behind? beginning name
    let code ← codeNumber? digits
    let isShort := code < 0x10000
    if CodePointSet.covers code codes.intervals && (digits.length = 4) = isShort then some code
    else none

/-! ## All names -/

def runs : List Run :=
  alphabets ++ scripts ++ symbols ++ eastAsia ++ ancient ++ signs ++ notations ++ pictures
    ++ aliases

def code? (name : List Char) : Option Nat :=
  match behind? "HANGUL SYLLABLE " name, behind? "CJK UNIFIED IDEOGRAPH-" name with
  | some letters, _ => syllable? letters
  | none, some digits => unifiedIdeograph? digits
  | none, none =>
    let name := name.map Char.toUpper
    numberedCode? name <|> runs.findSome? (·.code? name)

end ShaderVariants.Text.CharacterName
