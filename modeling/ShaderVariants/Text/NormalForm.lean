import ShaderVariants.Text.NormalForm.Data
import ShaderVariants.Text.NormalForm.Mappings

/-!
# Compatibility-composed text

The normal form of a text is what becomes of it when characters are replaced with those that they
are compatible with, composites are taken apart into base characters and marks, marks are put
into canonical order, and everything is composed again. A text is normal when it is its own
normal form.
-/

namespace ShaderVariants.Text

namespace NormalForm

/-- The combining class of a code point, zero for everything that is not a reordered mark. -/
def combiningClass (code : Nat) : Nat :=
  match markRuns.find? fun run => run.first ≤ code && code ≤ run.last with
  | some run => run.combiningClass
  | none => 0

/-- Splits a Hangul syllable into its leading consonant, its vowel and its final consonant. -/
def splitSyllable? (code : Nat) : Option (List Nat) :=
  if 0xac00 ≤ code && code ≤ 0xd7a3 then
    let index := code - 0xac00
    let parts := [0x1100 + index / 588, 0x1161 + index % 588 / 28]
    some (if index % 28 = 0 then parts else parts ++ [0x11a7 + index % 28])
  else none

/-- Composes two parts of a Hangul syllable. -/
def joinSyllable? (base mark : Nat) : Option Nat :=
  if 0x1100 ≤ base && base ≤ 0x1112 && 0x1161 ≤ mark && mark ≤ 0x1175 then
    some (0xac00 + ((base - 0x1100) * 21 + (mark - 0x1161)) * 28)
  else if 0xac00 ≤ base && base ≤ 0xd7a3 && (base - 0xac00) % 28 = 0
      && 0x11a8 ≤ mark && mark ≤ 0x11c2 then
    some (base + (mark - 0x11a7))
  else none

/-- Takes a composite apart to at most the given depth. -/
def expand : Nat → Nat → List Nat
  | 0, code => [code]
  | depth + 1, code =>
    match pairs.find? fun pair => pair.composite == code with
    | some pair => expand depth pair.base ++ [pair.mark]
    | none => [code]

/-- The base and the marks of one code point. Composites nest at most four deep. -/
def decompose (code : Nat) : List Nat := (splitSyllable? code).getD (expand 4 code)

/-- The stretch of mappings that a code point lies in. -/
def mapping? (mappings : List Mapping) (code : Nat) : Option Mapping :=
  mappings.find? fun mapping => mapping.first ≤ code && code ≤ mapping.last

def ideograph? (code : Nat) : Option Char :=
  ideographs.findSome? fun (first, targets) =>
    if first ≤ code then targets.toList[code - first]? else none

/-- The characters that a code point is compatible with. -/
def replacement (code : Nat) : List Nat :=
  let shifted := (mapping? shifts code).map fun mapping => [mapping.target + (code - mapping.first)]
  let merged := (mapping? merges code).map fun mapping => [mapping.target]
  let listed := (ideograph? code).map fun target => [target.toNat]
  let spelled := ((spellings ++ formSpellings).find? (·.1 == code)).map fun spelling =>
    spelling.2.toList.map Char.toNat
  (shifted <|> merged <|> listed <|> spelled).getD [code]

/-- Puts a code point behind the others of a reversed text, further back past marks of a higher
class. -/
def placeMark (code : Nat) : List Nat → List Nat
  | [] => [code]
  | last :: earlier =>
    if combiningClass code ≠ 0 && combiningClass code < combiningClass last then
      last :: placeMark code earlier
    else code :: last :: earlier

/-- Sorts each run of marks by class and keeps equal classes in their order. -/
def arrange (codes : List Nat) : List Nat :=
  (codes.foldl (fun placed code => placeMark code placed) []).reverse

/-- The composite of two code points, if there is one. -/
def compose? (base mark : Nat) : Option Nat :=
  match joinSyllable? base mark with
  | some code => some code
  | none => (pairs.find? fun pair => pair.base == base && pair.mark == mark).map Pair.composite

/-- Composes what follows `base`; `marks` are those already seen that stay apart from it, the
latest first. A mark is out of reach behind another one of its own or a higher class. -/
def composeFrom (base : Nat) (marks : List Nat) : List Nat → List Nat
  | [] => base :: marks.reverse
  | code :: rest =>
    let reachable :=
      match marks with
      | [] => true
      | latest :: _ => combiningClass latest < combiningClass code
    match if reachable then compose? base code else none with
    | some composite => composeFrom composite marks rest
    | none =>
      if combiningClass code = 0 then base :: marks.reverse ++ composeFrom code [] rest
      else composeFrom base (code :: marks) rest

/-- Composes a text whose marks are in canonical order. -/
def compose : List Nat → List Nat
  | [] => []
  | code :: rest =>
    if combiningClass code = 0 then composeFrom code [] rest else code :: compose rest

end NormalForm

/-- Code points below this one are neither replaced nor composed with each other. -/
def NormalForm.plainLimit : Nat := 0xa0

def normalForm (text : String) : String :=
  let codes := text.toList.map Char.toNat
  if codes.all (· < NormalForm.plainLimit) then text
  else
    let parts := (codes.flatMap NormalForm.replacement).flatMap NormalForm.decompose
    String.ofList ((NormalForm.compose (NormalForm.arrange parts)).map Char.ofNat)

/-- Compatibility normalisation leaves the text as it is. -/
def isNormal (text : String) : Bool := normalForm text == text

end ShaderVariants.Text
