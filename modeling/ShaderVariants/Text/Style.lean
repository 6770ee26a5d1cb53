import ShaderVariants.Text.Blank
import ShaderVariants.Text.DecimalDigit
import ShaderVariants.Text.Lowercase
import ShaderVariants.Text.Parts

/-!
# Styles

A style says how text is to look: its attributes, its colors, and what it links to. Its words may
stand in any order and attributes have short names, so that one style is written in many ways;
`normalName` gives the same name to all of them.
-/

namespace ShaderVariants.Text

/-- A style. An attribute is either wanted or unwanted, or it is left as it is. -/
structure Style where
  attributes : List (String × Bool)
  color : Option String
  background : Option String
  link : Option String
  deriving DecidableEq, Repr

namespace Style

/-- The style that leaves everything as it is. -/
def none : Style := ⟨[], .none, .none, .none⟩

/-- Attributes in the order in which they are written, each with its short names. -/
def attributeNames : List (String × List String) := [
  ("bold", ["b"]), ("dim", ["d"]), ("italic", ["i"]), ("underline", ["u"]), ("blink", []),
  ("blink2", []), ("reverse", ["r"]), ("conceal", ["c"]), ("strike", ["s"]),
  ("underline2", ["uu"]), ("frame", []), ("encircle", []), ("overline", ["o"])]

def attribute? (word : String) : Option String :=
  (attributeNames.find? fun (name, short) => name = word || short.contains word).map Prod.fst

/-- Colors that have names. Blanks separate them. -/
def listedColors : String := "
  black red green yellow blue magenta cyan white bright_black bright_red bright_green
  bright_yellow bright_blue bright_magenta bright_cyan bright_white grey0 gray0 navy_blue
  dark_blue blue3 blue1 dark_green deep_sky_blue4 dodger_blue3 dodger_blue2 green4
  spring_green4 turquoise4 deep_sky_blue3 dodger_blue1 green3 spring_green3 dark_cyan
  light_sea_green deep_sky_blue2 deep_sky_blue1 spring_green2 cyan3 dark_turquoise turquoise2
  green1 spring_green1 medium_spring_green cyan2 cyan1 dark_red deep_pink4 purple4 purple3
  blue_violet orange4 grey37 gray37 medium_purple4 slate_blue3 royal_blue1 chartreuse4
  dark_sea_green4 pale_turquoise4 steel_blue steel_blue3 cornflower_blue chartreuse3 cadet_blue
  sky_blue3 steel_blue1 pale_green3 sea_green3 aquamarine3 medium_turquoise chartreuse2
  sea_green2 sea_green1 aquamarine1 dark_slate_gray2 dark_magenta dark_violet purple
  light_pink4 plum4 medium_purple3 slate_blue1 yellow4 wheat4 grey53 gray53 light_slate_grey
  light_slate_gray medium_purple light_slate_blue dark_olive_green3 dark_sea_green
  light_sky_blue3 sky_blue2 dark_sea_green3 dark_slate_gray3 sky_blue1 chartreuse1 light_green
  pale_green1 dark_slate_gray1 red3 medium_violet_red magenta3 dark_orange3 indian_red
  hot_pink3 medium_orchid3 medium_orchid medium_purple2 dark_goldenrod light_salmon3 rosy_brown
  grey63 gray63 medium_purple1 gold3 dark_khaki navajo_white3 grey69 gray69 light_steel_blue3
  light_steel_blue yellow3 dark_sea_green2 light_cyan3 light_sky_blue1 green_yellow
  dark_olive_green2 dark_sea_green1 pale_turquoise1 deep_pink3 magenta2 hot_pink2 orchid
  medium_orchid1 orange3 light_pink3 pink3 plum3 violet light_goldenrod3 tan misty_rose3
  thistle3 plum2 khaki3 light_goldenrod2 light_yellow3 grey84 gray84 light_steel_blue1 yellow2
  dark_olive_green1 honeydew2 light_cyan1 red1 deep_pink2 deep_pink1 magenta1 orange_red1
  indian_red1 hot_pink dark_orange salmon1 light_coral pale_violet_red1 orchid2 orchid1 orange1
  sandy_brown light_salmon1 light_pink1 pink1 plum1 gold1 navajo_white1 misty_rose1 thistle1
  yellow1 light_goldenrod1 khaki1 wheat1 cornsilk1 grey100 gray100 grey3 gray3 grey7 gray7
  grey11 gray11 grey15 gray15 grey19 gray19 grey23 gray23 grey27 gray27 grey30 gray30 grey35
  gray35 grey39 gray39 grey42 gray42 grey46 gray46 grey50 gray50 grey54 gray54 grey58 gray58
  grey62 gray62 grey66 gray66 grey70 gray70 grey74 gray74 grey78 gray78 grey82 gray82 grey85
  gray85 grey89 gray89 grey93 gray93"

def colorNames : List (List Char) := "default".toList :: words listedColors.toList

def number? (digits : List Char) : Option Nat := do
  let values ← digits.mapM decimalValue?
  if values.isEmpty then failure
  return values.foldl (fun number value => 10 * number + value) 0

def isByte (digits : List Char) : Bool := (number? digits).any (· ≤ 255)

/-- What stands in parentheses behind a name that ends with the opening one. -/
def argument? (name word : List Char) : Option (List Char) :=
  if name.isPrefixOf word && word.getLast? = some ')' then some (word.drop name.length).dropLast
  else .none

def isColorNumber (digits : List Char) : Bool :=
  digits.length ≤ 3 && digits.all Char.isDigit && isByte digits

/-- The red, green and blue of a color. -/
def isColorMixture (text : List Char) : Bool :=
  let parts := parts ',' text
  parts.length = 3 && parts.all isByte

/-- A digit of a hexadecimal number in lower case. -/
def isLowerHex (c : Char) : Bool := c.isDigit || ('a' ≤ c && c ≤ 'f')

/-- A color: by its name, by its number, or mixed. -/
def isColor (word : List Char) : Bool :=
  colorNames.contains word
    || (word.length = 7 && word.head? = some '#' && word.tail.all isLowerHex)
    || (argument? "color(".toList word).any isColorNumber
    || (argument? "rgb(".toList word).any isColorMixture

/-- A color in lower case. -/
def color? (word : String) : Option String :=
  let name := lowercase word
  if isColor name.toList then some name else .none

def withAttribute (style : Style) (name : String) (isWanted : Bool) : Style :=
  { style with attributes := (name, isWanted) :: style.attributes }

def addWords? (style : Style) : List String → Option Style
  | [] => some style
  | word :: rest =>
    let name := lowercase word
    if name = "on" then
      match rest with
      | [] => .none
      | background :: rest => do
        addWords? { style with background := some (← color? background) } rest
    else if name = "not" then
      match rest with
      | [] => .none
      | unwanted :: rest => do
        addWords? (style.withAttribute (← attribute? unwanted) false) rest
    else if name = "link" then
      match rest with
      | [] => .none
      | link :: rest => addWords? { style with link := some link } rest
    else
      match attribute? name with
      | some wanted => addWords? (style.withAttribute wanted true) rest
      | .none => do addWords? { style with color := some (← color? word) } rest

def read? (text : List Char) : Option Style :=
  match (words text).map String.ofList with
  | ["none"] => some none
  | words => none.addWords? words

/-- An attribute in words, if it is not left as it is. -/
def attributeWord? (style : Style) (name : String) : Option String :=
  (style.attributes.lookup name).map fun isWanted => if isWanted then name else s!"not {name}"

/-- The style in words, in their normal order. -/
def written (style : Style) : String :=
  let attributes := attributeNames.filterMap fun (name, _) => style.attributeWord? name
  let words := attributes ++ style.color.toList
    ++ (style.background.map fun color => s!"on {color}").toList
    ++ (style.link.map fun link => s!"link {link}").toList
  if words.isEmpty then "none" else String.intercalate " " words

/-- The normal name of a style. What is no style stays, apart from its case. -/
def normalName (text : List Char) : String :=
  match read? text with
  | some style => style.written
  | .none => lowercase (String.ofList (trim text))

end Style

end ShaderVariants.Text
