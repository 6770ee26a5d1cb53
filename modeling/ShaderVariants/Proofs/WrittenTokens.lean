import Mathlib.Data.List.Chain
import ShaderVariants.Proofs.TokenReading

/-!
# Writing tokens

Any tokens can be written, with any gaps around them, and reading gives them back: layout tells
nothing but where a word ends.  Quotes and backslashes of strings are written behind a backslash,
everything else as it is.
-/

namespace ShaderVariants

/-- A token without its place. -/
def Token.content (token : Token) : Token.Kind × String := (token.kind, token.text)

namespace Lexical

/-- A character as it is written between quotes. -/
def escaped (c : Char) : List Char := if c = '"' ∨ c = '\\' then ['\\', c] else [c]

theorem unescapes_escaped (text : List Char) : Unescapes (text.flatMap escaped) text := by
  induction text with
  | nil => exact .nil
  | cons c text ih =>
      rw [List.flatMap_cons, escaped]
      by_cases special : c = '"' ∨ c = '\\'
      · rw [if_pos special]
        refine .escaped (.itself ?_ ?_) ih <;> rcases special with rfl | rfl <;> decide
      · rw [if_neg special]
        rw [not_or] at special
        exact .plain special.1 special.2 ih

/-- A token to be written.  Names and numbers are of their form. -/
inductive Item where
  | mark (mark : PunctuationMark)
  | keyword (keyword : Keyword)
  | name (word : List Char) (isName : IsName word)
  | number (word : List Char) (isNumber : IsNumber word)
  | string (text : List Char)

namespace Item

def kind : Item → Token.Kind
  | .mark symbol => .mark symbol
  | .keyword word => .keyword word
  | .name _ _ => .identifier
  | .number _ _ => .number
  | .string _ => .string

/-- The text of the token. -/
def text : Item → List Char
  | .mark symbol => [symbol.character]
  | .keyword word => word.spelling.toList
  | .name word _ => word
  | .number word _ => word
  | .string text => text

/-- How the token is written. -/
def lexeme : Item → List Char
  | .string text => '"' :: (text.flatMap escaped ++ ['"'])
  | item => item.text

/-- The item as a token without its place. -/
def content (item : Item) : Token.Kind × String := (item.kind, String.ofList item.text)

theorem isLexeme (item : Item) : IsLexeme item.lexeme item.kind item.text := by
  cases item with
  | mark mark => exact .mark mark
  | keyword keyword => exact .keyword keyword
  | name word isName => exact .identifier isName
  | number word isNumber => exact .number isNumber
  | string text => exact .string (unescapes_escaped text)

end Item

/-- A token with the gap in front of it. -/
structure Piece where
  gap : List Char
  isGap : IsGap gap
  item : Item

/-- A word has a gap in front of it when another word comes before. -/
def Spaced (pieces : List Piece) : Prop :=
  pieces.IsChain fun first second =>
    IsWord first.item.kind → IsWord second.item.kind → second.gap ≠ []

/-- Some tokens with their gaps, and a gap at the end. -/
def written (pieces : List Piece) (last : List Char) : List Char :=
  match pieces with
  | [] => last
  | piece :: pieces => piece.gap ++ (piece.item.lexeme ++ written pieces last)

/-! ## What ends a word -/

/-- No character of a word begins a text. -/
def EndsWord (cs : List Char) : Prop := ∀ c ∈ cs.head?, Text.isWordCharacter c = false

theorem IsGapPart.endsWord {part : List Char} (isPart : IsGapPart part) :
    ∃ c rest, part = c :: rest ∧ Text.isWordCharacter c = false := by
  cases isPart with
  | @blank c isBlank =>
      refine ⟨c, [], rfl, ?_⟩
      rw [Bool.eq_false_iff]
      intro word
      rw [Text.isBlank_eq_false_of_isWordCharacter word] at isBlank
      cases isBlank
  | lineComment => exact ⟨_, _, rfl, by decide⟩
  | blockComment => exact ⟨_, _, rfl, by decide⟩

theorem IsGap.endsWord {gap : List Char} (isGap : IsGap gap) {rest : List Char}
    (otherwise : gap = [] → EndsWord rest) : EndsWord (gap ++ rest) := by
  cases isGap with
  | nil => exact otherwise rfl
  | more isPart _ =>
      obtain ⟨c, others, rfl, ends⟩ := isPart.endsWord
      intro d first
      cases first
      exact ends

theorem Item.endsWord {item : Item} (noWord : ¬IsWord item.kind) (rest : List Char) :
    EndsWord (item.lexeme ++ rest) := by
  intro c first
  cases item with
  | mark mark =>
      cases first
      cases mark <;> decide
  | string text =>
      cases first
      decide
  | keyword | name | number => exact (noWord trivial).elim

theorem Spaced.delimits {piece : Piece} {pieces : List Piece} (spaced : Spaced (piece :: pieces))
    {last : List Char} (isGap : IsGap last) :
    Delimits piece.item.kind (written pieces last) := by
  intro isWord
  cases pieces with
  | nil =>
      have ends : EndsWord (last ++ []) := isGap.endsWord fun _ c first => by cases first
      rwa [List.append_nil] at ends
  | cons next pieces =>
      refine next.isGap.endsWord fun empty => Item.endsWord ?_ _
      obtain ⟨apart, -⟩ := List.isChain_cons_cons.mp spaced
      exact fun isWord' => apart isWord isWord' empty

/-! ## Reading what was written -/

theorem exists_splits_written {pieces : List Piece} (spaced : Spaced pieces) {last : List Char}
    (isGap : IsGap last) (passed : List Char) :
    ∃ tokens, Splits passed (written pieces last) tokens last ∧
      tokens.map Token.content = pieces.map fun piece => piece.item.content := by
  induction pieces generalizing passed with
  | nil => exact ⟨[], .nil, rfl⟩
  | cons piece pieces ih =>
      obtain ⟨tokens, others, contents⟩ := ih spaced.tail (passed ++ piece.gap ++ piece.item.lexeme)
      refine ⟨_, .more piece.isGap piece.item.isLexeme (spaced.delimits isGap) others, ?_⟩
      rw [List.map_cons, List.map_cons, contents]
      rfl

/-- Tokens that are written are read again, whichever gaps stand between, before and behind them. -/
theorem ofText_written {pieces : List Piece} {last : List Char} (spaced : Spaced pieces)
    (isGap : IsGap last) :
    (Token.ofText (String.ofList (written pieces last))).map (List.map Token.content) =
      .ok ((pieces.map fun piece => piece.item.content) ++ [(.endOfInput, "")]) := by
  obtain ⟨tokens, splits, contents⟩ := exists_splits_written spaced isGap []
  have into : SplitsInto (written pieces last)
      (tokens ++ [tokenAt (.behind (written pieces last)) .endOfInput []]) :=
    ⟨tokens, last, splits, .closed isGap, rfl⟩
  rw [Token.ofText_of_splitsInto (by rwa [String.toList_ofList]), Except.map, List.map_append,
    contents]
  rfl

/-- Tokens of every form.  The gaps are a comment with a quote in it, a blank, a comment with an
opening mark in it, and nothing around a string. -/
def sample : List Piece := [
  ⟨"//\"\n".toList, .more (.lineComment (by decide : '\n' ∉ ['"'])) .nil, .keyword .valueEnumWord⟩,
  ⟨[' '], .more (.blank (by decide)) .nil,
    .name ['x', '1'] ⟨⟨'x', ['1'], rfl, .inl (by decide)⟩, List.all_eq_true.mp (by decide),
      by rintro ⟨⟩ <;> decide⟩⟩,
  ⟨[], .nil, .string ['"', '\\', '\n', '/', '*']⟩,
  ⟨[], .nil, .number ['0', 'b', '1'] ⟨⟨'0', ['b', '1'], rfl, by decide⟩,
    List.all_eq_true.mp (by decide)⟩⟩,
  ⟨"/*/*\"*/".toList,
    .more (.blockComment (by decide : ¬['*', '/'] <:+: ['/', '*', '"'])) .nil, .mark .minus⟩]

theorem ofText_written_sample :
    Spaced sample ∧ IsGap ['\t'] ∧
      (Token.ofText "//\"\nvalue_enum x1\"\\\"\\\\\n/*\"0b1/*/*\"*/-\t").map
          (List.map Token.content) =
        .ok [(.keyword .valueEnumWord, "value_enum"), (.identifier, "x1"), (.string, "\"\\\n/*"),
          (.number, "0b1"), (.mark .minus, "-"), (.endOfInput, "")] := by
  have spaced : Spaced sample := by simp [sample, Spaced, IsWord, Item.kind]
  have isGap : IsGap ['\t'] := .more (.blank (by decide)) .nil
  have text : "//\"\nvalue_enum x1\"\\\"\\\\\n/*\"0b1/*/*\"*/-\t" =
      String.ofList (written sample ['\t']) := by decide
  refine ⟨spaced, isGap, ?_⟩
  rw [text, ofText_written spaced isGap]
  rfl

end Lexical

end ShaderVariants
