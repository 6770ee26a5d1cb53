import ShaderVariants.Text.Emoji
import ShaderVariants.Text.Style

/-!
# Markup

Tags in square brackets say how the text between them is to look: `[bold]` opens and `[/bold]`
closes, and `[/]` closes what was opened last. A tag may stay open. Backslashes in front of a tag
are written twice, and one more of them makes the tag a part of the text.

`plain` is what is left of a marked text where looks do not matter.
-/

namespace ShaderVariants.Text.Markup

/-- A tag: its name, and what stands behind an equals sign. -/
structure Tag where
  name : List Char
  parameters : Option (List Char)
  deriving DecidableEq, Repr

namespace Tag

/-- The tag with a text between its brackets. -/
def ofContent (content : List Char) : Tag :=
  let name := content.takeWhile (· ≠ '=')
  match content.drop name.length with
  | [] => ⟨name, none⟩
  | _ :: parameters => ⟨name, some parameters⟩

def written (tag : Tag) : String :=
  let parameters := tag.parameters.elim [] ('=' :: ·)
  "[" ++ String.ofList (tag.name ++ parameters) ++ "]"

end Tag

/-- Why a tag cannot be closed, and where the closing tag begins. -/
inductive Fault where
  | nothingOpen (position : Nat)
  | notOpen (tag : Tag) (position : Nat)
  deriving DecidableEq, Repr

def Fault.message : Fault → String
  | .nothingOpen position => s!"closing tag '[/]' at position {position} has nothing to close"
  | .notOpen tag position =>
    s!"closing tag '{tag.written}' at position {position} doesn't match any open tag"

/-- A part of a marked text. -/
inductive Part where
  | text (characters : List Char)
  | tag (tag : Tag) (position : Nat)
  deriving DecidableEq, Repr

/-- A character that what stands in the brackets of a tag may begin with. -/
def beginsTag (c : Char) : Bool := ('a' ≤ c && c ≤ 'z') || c = '#' || c = '/' || c = '@'

/-- What stands in the brackets of the tag at the beginning of a text. -/
def tagContent? : List Char → Option (List Char)
  | '[' :: rest =>
    let content := rest.takeWhile fun c => c ≠ '[' && c ≠ ']'
    if content.head?.any beginsTag && (rest.drop content.length).head? = some ']' then
      some content
    else none
  | _ => none

/-- The number of backslashes in front of the tag at the beginning of a text, and what stands in
its brackets. -/
def escapedTag? (cs : List Char) : Option (Nat × List Char) :=
  let escapes := cs.takeWhile (· = '\\')
  (tagContent? (cs.drop escapes.length)).map (escapes.length, ·)

def textPart (characters : List Char) : List Part :=
  if characters.isEmpty then [] else [.text characters]

/-- The parts that a tag is together with the backslashes in front of it. -/
def tagParts (position escapes : Nat) (content : List Char) : List Part :=
  let isText := escapes % 2 = 1
  let part := if isText then Part.text ('[' :: content ++ [']'])
    else .tag (.ofContent content) (position + escapes)
  textPart (List.replicate (escapes / 2) '\\') ++ [part]

/-- The parts of a text that begins at a position; `before` is what precedes it back to the last
tag, reversed. -/
def partsFrom (position : Nat) (before : List Char) (cs : List Char) : List Part :=
  match cs with
  | [] => textPart before.reverse
  | c :: rest =>
    match escapedTag? (c :: rest) with
    | none => partsFrom (position + 1) (c :: before) rest
    | some (escapes, content) =>
      let size := escapes + content.length + 2
      textPart before.reverse ++ tagParts position escapes content
        ++ partsFrom (position + size) [] ((c :: rest).drop size)
termination_by cs.length
decreasing_by all_goals simp only [List.length_cons, List.length_drop]; omega

/-- The tags and the text between them. -/
def parts (cs : List Char) : List Part := partsFrom 0 [] cs

/-- Controls that are never printed: they ring the bell or move the cursor. -/
def isDropped (c : Char) : Bool := c ∈ ['\x07', '\x08', '\x0b', '\x0c', '\r']

/-- The text without the backslashes in front of opening brackets. -/
def unescape : List Char → List Char
  | '\\' :: '[' :: rest => '[' :: unescape rest
  | c :: rest => c :: unescape rest
  | [] => []

/-- What is printed for the text between two tags. -/
def printed (cs : List Char) : List Char :=
  (Emoji.replaceCodes (unescape cs)).filter (!isDropped ·)

/-- The names of open tags behind a tag, the latest first. -/
def Tag.follow (openTags : List String) (tag : Tag) (position : Nat) :
    Except Fault (List String) :=
  match tag.name with
  | '/' :: name =>
    if (trim name).isEmpty then
      match openTags with
      | [] => .error (.nothingOpen position)
      | _ :: others => .ok others
    else
      let name := Style.normalName name
      if openTags.contains name then .ok (openTags.erase name)
      else .error (.notOpen tag position)
  | name => .ok (Style.normalName name :: openTags)

def plainParts (openTags : List String) : List Part → Except Fault (List Char)
  | [] => .ok []
  | .text characters :: rest => (printed characters ++ ·) <$> plainParts openTags rest
  | .tag tag position :: rest => do plainParts (← tag.follow openTags position) rest

/-- What is printed for a marked text. -/
def plain (text : String) : Except Fault String :=
  String.ofList <$> plainParts [] (parts text.toList)

end ShaderVariants.Text.Markup
