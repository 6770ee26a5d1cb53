import ShaderVariants.Position
import ShaderVariants.Template.Literal
import ShaderVariants.Text.Alphanumeric
import ShaderVariants.Text.Blank
import ShaderVariants.Text.Identifier
import ShaderVariants.Text.Lines

/-!
# Reading template tokens

A template switches between text and tags. Text goes on up to the next opening mark; a tag goes
on up to its closing mark, which is not recognised inside of brackets. A line whose first
characters are the mark for line statements is a tag as well. A minus sign inside a mark takes
the blanks on that side away, and settings may take away the newline behind a statement and the
indentation in front of one.
-/

namespace ShaderVariants.Template

/-- How a template is read. Without a mark there are no line statements. -/
structure Settings where
  lineMark : Option (List Char)
  trimBlocks : Bool
  stripIndentation : Bool
  deriving DecidableEq, Repr

/-- What an opening mark opens. -/
inductive Opening where
  | raw
  | print
  | comment
  | statement
  | lineStatement
  deriving DecidableEq, Repr

/-- What an opening mark says about the blanks in front of it. -/
inductive Trim where
  | unsaid
  | strip
  | keep
  deriving DecidableEq, Repr

/-- An opening mark and its length. -/
structure Mark where
  opening : Opening
  trim : Trim
  length : Nat
  deriving DecidableEq, Repr

/-- The tokens of a template as far as they can be read, and the fault that ends them. -/
structure Lexed where
  tokens : List Token
  fault? : Option SyntaxFault

namespace Lexer

def blankLength (cs : List Char) : Nat := (cs.takeWhile Text.isBlank).length

/-- The sign behind an opening mark. -/
def trimAt : List Char → Trim
  | '-' :: _ => .strip
  | '+' :: _ => .keep
  | _ => .unsaid

/-- Length of the sign behind an opening mark. -/
def Trim.length : Trim → Nat
  | .unsaid => 0
  | _ => 1

/-- Length of a given word, blanks around it included, at the front of a text. -/
def wordLength? (word : List Char) (cs : List Char) : Option Nat :=
  let before := blankLength cs
  let rest := cs.drop before
  if word.isPrefixOf rest then
    some (before + word.length + blankLength (rest.drop word.length))
  else none

/-- Length of a closing mark. A sign in front of it keeps what follows or takes the blanks behind
it away; without a sign the settings may take a newline away. -/
def closingLength? (settings : Settings) (mark cs : List Char) : Option Nat :=
  if ('+' :: mark).isPrefixOf cs then some (mark.length + 1)
  else if ('-' :: mark).isPrefixOf cs then
    some (mark.length + 1 + blankLength (cs.drop (mark.length + 1)))
  else if mark.isPrefixOf cs then
    let newline := settings.trimBlocks && (cs.drop mark.length).head? == some '\n'
    some (mark.length + if newline then 1 else 0)
  else none

def statementClosing : List Char := ['%', '\x7d']

def commentClosing : List Char := ['#', '\x7d']

def printClosing : List Char := ['\x7d', '\x7d']

/-! ## Opening marks -/

/-- The mark of a raw block, which ends without a look at the settings. -/
def rawMark? (cs : List Char) : Option Mark :=
  match cs with
  | '\x7b' :: '%' :: rest =>
    let trim := trimAt rest
    let inner := rest.drop (Trim.length trim)
    match wordLength? ['r', 'a', 'w'] inner with
    | none => none
    | some word =>
      let ending := inner.drop word
      let opened := 2 + Trim.length trim + word
      if ('-' :: statementClosing).isPrefixOf ending then
        some ⟨.raw, trim, opened + 3 + blankLength (ending.drop 3)⟩
      else if statementClosing.isPrefixOf ending then some ⟨.raw, trim, opened + 2⟩
      else none
  | _ => none

/-- Blanks that may stand in front of a line statement. -/
def isIndentation (c : Char) : Bool := c == ' ' || c == '\t' || c == '\x0b'

/-- Length of indentation and the given mark behind it. -/
def indentedLength? (mark cs : List Char) : Option Nat :=
  let most := (cs.takeWhile isIndentation).length
  ((List.range (most + 1)).reverse.find? fun indentation =>
    mark.isPrefixOf (cs.drop indentation)).map (· + mark.length)

/-- Length of an opening mark without its sign. A line statement opens at the beginning of a line
only. -/
def openingLength? (settings : Settings) (atLineStart : Bool) (cs : List Char) :
    Opening → Option Nat
  | .raw => none
  | .print => if ['\x7b', '\x7b'].isPrefixOf cs then some 2 else none
  | .comment => if ['\x7b', '#'].isPrefixOf cs then some 2 else none
  | .statement => if ['\x7b', '%'].isPrefixOf cs then some 2 else none
  | .lineStatement =>
    if atLineStart then settings.lineMark.bind fun mark => indentedLength? mark cs else none

/-- The openings in the order in which they are tried: longer marks go first. -/
def openings (settings : Settings) : List Opening :=
  match settings.lineMark with
  | none => [.print, .comment, .statement]
  | some mark =>
    if 2 < mark.length then [.lineStatement, .print, .comment, .statement]
    else if mark.length = 2 then [.print, .lineStatement, .comment, .statement]
    else [.print, .comment, .statement, .lineStatement]

/-- The opening mark at the front of a text. -/
def mark? (settings : Settings) (atLineStart : Bool) (cs : List Char) : Option Mark :=
  match rawMark? cs with
  | some mark => some mark
  | none => (openings settings).findSome? fun opening =>
      (openingLength? settings atLineStart cs opening).map fun length =>
        let trim := trimAt (cs.drop length)
        ⟨opening, trim, length + Trim.length trim⟩

/-- The next opening mark, with the number of characters before it. -/
def nextMark? (settings : Settings) (atLineStart : Bool) (cs : List Char) : Option (Nat × Mark) :=
  match mark? settings atLineStart cs, cs with
  | some mark, _ => some (0, mark)
  | none, [] => none
  | none, c :: rest =>
    (nextMark? settings (c == '\n') rest).map fun (before, mark) => (before + 1, mark)

/-- The characters behind the last newline. -/
def lastLine (cs : List Char) : List Char := (cs.reverse.takeWhile (· != '\n')).reverse

/-- The text in front of an opening mark, without the blanks that are taken away. -/
def trimmed (settings : Settings) (atLineStart : Bool) (mark : Mark) (cs : List Char) :
    List Char :=
  match mark.trim with
  | .strip => Text.dropBlanksRight cs
  | .keep => cs
  | .unsaid =>
    let wholeLine := atLineStart || '\n' ∈ cs
    if settings.stripIndentation && mark.opening != .print && wholeLine
        && (lastLine cs).all Text.isBlank then
      cs.take (cs.length - (lastLine cs).length)
    else cs

/-! ## What ends a tag, a comment and a raw block -/

/-- Length of the end of a line statement: blanks up to the last newline among them, or up to the
end of the template. -/
def lineEndLength? (cs : List Char) : Option Nat :=
  let blanks := cs.takeWhile Text.isBlank
  if (cs.drop blanks.length).isEmpty then some blanks.length
  else
    let ended := blanks.length - (lastLine blanks).length
    if ended = 0 then none else some ended

def endingLength? (settings : Settings) (opening : Opening) (cs : List Char) : Option Nat :=
  match opening with
  | .print =>
    if ('-' :: printClosing).isPrefixOf cs then some (3 + blankLength (cs.drop 3))
    else if printClosing.isPrefixOf cs then some 2
    else none
  | .lineStatement => lineEndLength? cs
  | _ => closingLength? settings statementClosing cs

/-- The end of a comment: the characters before it, and its length. -/
def commentEnd? (settings : Settings) : List Char → Option (Nat × Nat)
  | [] => none
  | c :: rest =>
    match closingLength? settings commentClosing (c :: rest) with
    | some length => some (0, length)
    | none => (commentEnd? settings rest).map fun (before, length) => (before + 1, length)

def rawEndMark? (settings : Settings) (cs : List Char) : Option Mark :=
  match cs with
  | '\x7b' :: '%' :: rest =>
    let trim := trimAt rest
    let inner := rest.drop (Trim.length trim)
    match wordLength? ['e', 'n', 'd', 'r', 'a', 'w'] inner with
    | none => none
    | some word =>
      (closingLength? settings statementClosing (inner.drop word)).map fun closing =>
        ⟨.statement, trim, 2 + Trim.length trim + word + closing⟩
  | _ => none

/-- The end of a raw block, with the number of characters before it. -/
def rawEnd? (settings : Settings) : List Char → Option (Nat × Mark)
  | [] => none
  | c :: rest =>
    match rawEndMark? settings (c :: rest) with
    | some mark => some (0, mark)
    | none => (rawEnd? settings rest).map fun (before, mark) => (before + 1, mark)

/-! ## Inside of tags -/

/-- What stands at some place of a tag. -/
inductive Lexeme where
  | blanks
  | token (kind : Token.Kind)
  | fault (cause : SyntaxFault)

def isNameCharacter (c : Char) : Bool := Text.isWordCharacter c || Text.isIdentifierPart c

/-- The name at the front of a text. -/
def name? (cs : List Char) : Option (Lexeme × Nat) :=
  let word := cs.takeWhile isNameCharacter
  if word.isEmpty then none
  else
    let text := String.ofList word
    if Text.isIdentifier text then some (.token (.name text), word.length)
    else some (.fault .badName, word.length)

/-- The string at the front of a text. -/
def stringLexeme? (cs : List Char) : Option (Lexeme × Nat) :=
  (Literal.string? cs).map fun (body, length) =>
    match body with
    | .ok text => (.token (.text text), length)
    | .error problem => (.fault (.badEscape problem.message), length)

/-- The real number at the front of a text. -/
def realLexeme? (cs : List Char) : Option (Lexeme × Nat) :=
  (Literal.real? cs).map fun (value, length) =>
    match value with
    | .ok value => (.token (.real value), length)
    | .error fault => (.fault fault, length)

/-- The integer at the front of a text. Behind the mark of another radix it may be of any
length. -/
def integerLexeme? (cs : List Char) : Option (Lexeme × Nat) :=
  (Literal.integer? cs).map fun (value, length) =>
    let digits := (cs.take length).filter (· != '_')
    if (Literal.radixInteger? cs).isNone && Decimal.isOversized digits then
      (.fault (.oversizedNumeral digits.length), length)
    else (.token (.integer value), length)

/-- The blanks at the front of a text. -/
def blanks? (cs : List Char) : Option (Lexeme × Nat) :=
  if blankLength cs = 0 then none else some (.blanks, blankLength cs)

/-- What stands at the front of a text, and its length. -/
def lexeme? (cs : List Char) : Option (Lexeme × Nat) :=
  blanks? cs
  <|> realLexeme? cs
  <|> integerLexeme? cs
  <|> name? cs
  <|> stringLexeme? cs
  <|> (Sign.beginning? cs).map fun sign => (.token (.sign sign), sign.spelling.length)

def bracketsAfter (brackets : List Sign) : Token.Kind → Except SyntaxFault (List Sign)
  | .sign found =>
    match found.closing? with
    | some closing => .ok (closing :: brackets)
    | none =>
      if !found.isClosing then .ok brackets
      else
        match brackets with
        | [] => .error (.unexpectedClosing found)
        | wanted :: others =>
          if found = wanted then .ok others else .error (.mismatchedClosing found wanted)
  | _ => .ok brackets

/-! ## The whole template -/

/-- What a place of a template belongs to. -/
inductive Context where
  | text
  | comment
  | raw
  | tag (opening : Opening)
  deriving DecidableEq, Repr

/-- Text counts for one more than what it leads to. -/
def Context.rank : Context → Nat
  | .text => 1
  | _ => 0

def Opening.token? : Opening → Option Token.Kind
  | .print => some .printBegin
  | .statement => some .statementBegin
  | .lineStatement => some .statementBegin
  | _ => none

def Opening.endToken : Opening → Token.Kind
  | .print => .printEnd
  | _ => .statementEnd

/-- What an opening mark leads to. -/
def Opening.context : Opening → Context
  | .raw => .raw
  | .comment => .comment
  | opening => .tag opening

/-- A text as a token, unless it is empty. -/
def dataTokens (cs : List Char) (line : Nat) : List Token :=
  if cs.isEmpty then [] else [⟨.data (String.ofList cs), line⟩]

/-- Some tokens in front of others. -/
def Lexed.prepend (tokens : List Token) (lexed : Lexed) : Lexed :=
  { lexed with tokens := tokens ++ lexed.tokens }

/-- Reads on from a place in a template, with some brackets to be closed. -/
def readFrom (settings : Settings) (context : Context) (position : Position)
    (brackets : List Sign) (cs : List Char) : Lexed :=
  match context, cs with
  | .text, cs =>
    let atLineStart := position.column = 1
    match nextMark? settings atLineStart cs with
    | none => ⟨dataTokens cs position.line, none⟩
    | some (before, mark) =>
      let data := trimmed settings atLineStart mark (cs.take before)
      let opened := position.after (cs.take (before + mark.length))
      let begun := (Opening.token? mark.opening).toList.map (⟨·, position.line⟩)
      Lexed.prepend (dataTokens data position.line ++ begun)
        (readFrom settings (Opening.context mark.opening) opened brackets
          (cs.drop (before + mark.length)))
  | .comment, [] => ⟨[], none⟩
  | .comment, c :: rest =>
    match commentEnd? settings (c :: rest) with
    | none => ⟨[], some .unclosedComment⟩
    | some (before, length) =>
      let taken := before + length - 1
      readFrom settings .text (position.after (c :: rest.take taken)) brackets (rest.drop taken)
  | .raw, [] => ⟨[], none⟩
  | .raw, c :: rest =>
    match rawEnd? settings (c :: rest) with
    | none => ⟨[], some .unclosedRaw⟩
    | some (before, mark) =>
      let data := trimmed settings (position.column = 1) mark ((c :: rest).take before)
      let taken := before + mark.length - 1
      Lexed.prepend (dataTokens data position.line)
        (readFrom settings .text (position.after (c :: rest.take taken)) brackets
          (rest.drop taken))
  | .tag opening, [] =>
    if opening = .lineStatement ∧ brackets = [] then ⟨[⟨.statementEnd, position.line⟩], none⟩
    else ⟨[], none⟩
  | .tag opening, c :: rest =>
    let ending := if brackets = [] then endingLength? settings opening (c :: rest) else none
    match ending with
    | some length =>
      let taken := length - 1
      Lexed.prepend [⟨Opening.endToken opening, position.line⟩]
        (readFrom settings .text (position.after (c :: rest.take taken)) brackets
          (rest.drop taken))
    | none =>
      match lexeme? (c :: rest) with
      | none => ⟨[], some (.unexpectedCharacter c position.offset)⟩
      | some (lexeme, length) =>
        let taken := length - 1
        let next := position.after (c :: rest.take taken)
        match lexeme with
        | .blanks => readFrom settings (.tag opening) next brackets (rest.drop taken)
        | .fault cause => ⟨[], some cause⟩
        | .token kind =>
          match bracketsAfter brackets kind with
          | .error cause => ⟨[], some cause⟩
          | .ok unclosed =>
            Lexed.prepend [⟨kind, position.line⟩]
              (readFrom settings (.tag opening) next unclosed (rest.drop taken))
termination_by 2 * cs.length + context.rank
decreasing_by
  all_goals simp only [Context.rank, List.length_drop, List.length_cons]
  · cases mark.opening <;> simp only [Opening.context] <;> omega
  all_goals omega

end Lexer

/-- Reads the tokens of a template. All line ends count as newlines. -/
def Lexed.ofSource (settings : Settings) (source : String) : Lexed :=
  Lexer.readFrom settings .text .start [] (Text.unifyNewlines source.toList)

end ShaderVariants.Template
