import ShaderVariants.Position
import ShaderVariants.Text.Alphanumeric
import ShaderVariants.Text.Blank
import ShaderVariants.Token.Basic

/-!
# Reading tokens

A cursor stands between the characters of a text and knows its offset, line and column. Readers
take a cursor and return another one further on, together with what they read or the fault they
met; a faulty reader leaves the cursor where it stopped, so that reading can go on.

Between tokens lie gaps: blanks, comments that run to the end of the line, and comments that run
to a closing mark.
-/

namespace ShaderVariants

/-- A fault that shows at a place. -/
def Position.fault (position : Position) (cause : Fault.Cause) : Fault :=
  ⟨cause, position.line, position.column⟩

/-- A place in a text and the characters that follow it. -/
structure Cursor where
  position : Position
  rest : List Char
  deriving DecidableEq, Repr

/-- What a reader read, or the fault it met, and where it stopped. -/
structure Scan (α : Type) where
  result : Except Fault α
  cursor : Cursor

namespace Cursor

def start (text : List Char) : Cursor := ⟨.start, text⟩

/-- Moves past one character; at the end of the text it stays. -/
def advance (cursor : Cursor) : Cursor :=
  match cursor.rest with
  | [] => cursor
  | c :: rest => ⟨cursor.position.step c, rest⟩

/-! ## Gaps -/

/-- What a gap reader is inside of. A comment that has to be closed remembers where it began. -/
inductive GapState where
  | blanks
  | lineComment
  | blockComment (opening : Position)

/-- Reads on through a gap from a place inside of it. -/
def skipGapFrom (state : GapState) (position : Position) (cs : List Char) : Scan Unit :=
  match state, cs with
  | .blanks, '/' :: '/' :: rest =>
    skipGapFrom .lineComment ((position.step '/').step '/') rest
  | .blanks, '/' :: '*' :: rest =>
    skipGapFrom (.blockComment position) ((position.step '/').step '*') rest
  | .blanks, c :: rest =>
    if Text.isBlank c then skipGapFrom .blanks (position.step c) rest
    else ⟨.ok (), ⟨position, c :: rest⟩⟩
  | .lineComment, c :: rest =>
    if c = '\n' then skipGapFrom .blanks (position.step c) rest
    else skipGapFrom .lineComment (position.step c) rest
  | .blockComment _, '*' :: '/' :: rest =>
    skipGapFrom .blanks ((position.step '*').step '/') rest
  | .blockComment opening, c :: rest =>
    skipGapFrom (.blockComment opening) (position.step c) rest
  | .blockComment opening, [] => ⟨.error (opening.fault .unclosedComment), ⟨position, []⟩⟩
  | _, [] => ⟨.ok (), ⟨position, []⟩⟩

/-- Moves to the end of the gap that begins here. -/
def skipGap (cursor : Cursor) : Scan Unit := skipGapFrom .blanks cursor.position cursor.rest

theorem length_rest_skipGapFrom_le (state : GapState) (position : Position) (cs : List Char) :
    (skipGapFrom state position cs).cursor.rest.length ≤ cs.length := by
  fun_induction skipGapFrom state position cs <;> simp_all <;> omega

/-! ## Words and strings -/

/-- Reads the longest word that begins here, which may be empty. -/
def readWord (cursor : Cursor) : List Char × Cursor :=
  let word := cursor.rest.takeWhile Text.isWordCharacter
  (word, ⟨cursor.position.after word, cursor.rest.dropWhile Text.isWordCharacter⟩)

/-- The character that a backslash and the given one stand for in a string. -/
def unescape (c : Char) : Char :=
  if c = 'n' then '\n' else if c = 't' then '\t' else c

/-- Reads the rest of a string that was opened at `opening`, up to and with the closing quote. -/
def readStringFrom (opening position : Position) : List Char → Scan (List Char)
  | '"' :: rest => ⟨.ok [], ⟨position.step '"', rest⟩⟩
  | '\\' :: c :: rest =>
    let scan := readStringFrom opening ((position.step '\\').step c) rest
    { scan with result := (unescape c :: ·) <$> scan.result }
  | ['\\'] => ⟨.error (opening.fault .unclosedString), ⟨position.step '\\', []⟩⟩
  | c :: rest =>
    let scan := readStringFrom opening (position.step c) rest
    { scan with result := (c :: ·) <$> scan.result }
  | [] => ⟨.error (opening.fault .unclosedString), ⟨position, []⟩⟩

/-- Reads a string. The opening quote is not looked at. -/
def readString (cursor : Cursor) : Scan (List Char) :=
  readStringFrom cursor.position cursor.advance.position cursor.advance.rest

theorem length_rest_readStringFrom_le (opening position : Position) (cs : List Char) :
    (readStringFrom opening position cs).cursor.rest.length ≤ cs.length := by
  fun_induction readStringFrom opening position cs <;> simp_all +zetaDelta <;> omega

/-! ## Tokens -/

/-- The kind of a word that begins with a letter or an underscore. -/
def wordKind (word : String) : Token.Kind :=
  match Keyword.ofSpelling? word with
  | some keyword => .keyword keyword
  | none => .identifier

/-- Reads the token that begins with a character at a place. A character that begins none is not
passed over. -/
def readToken (position : Position) (c : Char) (rest : List Char) : Scan Token :=
  let token (kind : Token.Kind) (text : List Char) : Token :=
    ⟨kind, String.ofList text, position.line, position.column⟩
  let next : Cursor := ⟨position.step c, rest⟩
  if c = '"' then
    let scan := readStringFrom position next.position rest
    ⟨token .string <$> scan.result, scan.cursor⟩
  else if Text.isDigit c then
    let (word, cursor) := next.readWord
    ⟨.ok (token .number (c :: word)), cursor⟩
  else if Text.isLetter c || c == '_' then
    let (word, cursor) := next.readWord
    ⟨.ok (token (wordKind (String.ofList (c :: word))) (c :: word)), cursor⟩
  else
    match PunctuationMark.ofCharacter? c with
    | some mark => ⟨.ok (token (.mark mark) [c]), next⟩
    | none => ⟨.error (position.fault (.strayCharacter c)), ⟨position, c :: rest⟩⟩

theorem length_rest_readToken_le {position : Position} {c : Char} {rest : List Char}
    {token : Token} (read : (readToken position c rest).result = .ok token) :
    (readToken position c rest).cursor.rest.length ≤ rest.length := by
  unfold readToken at read ⊢
  simp only at read ⊢
  split
  · exact length_rest_readStringFrom_le _ _ _
  · split
    · exact (List.dropWhile_sublist _).length_le
    · split
      · exact (List.dropWhile_sublist _).length_le
      · split
        · exact Nat.le_refl _
        · rename_i noString noDigit noWord _ noMark
          simp [noString, noDigit, noWord, noMark] at read

end Cursor

/-- The tokens read from a place on, the fault that ended the reading if there was one, and where
it ended. Without a fault the last token is the end of the input. -/
structure Lexed where
  tokens : List Token
  fault : Option Fault
  cursor : Cursor

/-- Reads tokens to the end of the text or to the first fault. -/
def Cursor.readTokens (cursor : Cursor) : Lexed :=
  let gap := cursor.skipGap
  match gap.result with
  | .error fault => ⟨[], some fault, gap.cursor⟩
  | .ok () =>
    match _following : gap.cursor.rest with
    | [] =>
      let position := gap.cursor.position
      ⟨[⟨.endOfInput, "", position.line, position.column⟩], none, gap.cursor⟩
    | c :: rest =>
      let scan := Cursor.readToken gap.cursor.position c rest
      match _read : scan.result with
      | .error fault => ⟨[], some fault, scan.cursor⟩
      | .ok token =>
        let lexed := scan.cursor.readTokens
        { lexed with tokens := token :: lexed.tokens }
termination_by cursor.rest.length
decreasing_by
  have shorter := Cursor.length_rest_readToken_le _read
  have gapped := Cursor.length_rest_skipGapFrom_le .blanks cursor.position cursor.rest
  have whole : (Cursor.skipGapFrom .blanks cursor.position cursor.rest).cursor.rest = c :: rest :=
    _following
  rw [whole, List.length_cons] at gapped
  exact Nat.lt_of_lt_of_le (Nat.lt_succ_of_le shorter) gapped

namespace Token

/-- The tokens of a text, or its first fault. -/
def ofText (text : String) : Except Fault (List Token) :=
  let lexed := (Cursor.start text.toList).readTokens
  match lexed.fault with
  | some fault => .error fault
  | none => .ok lexed.tokens

end Token

/-! ## Stepwise reading -/

/-- A reading in steps: a cursor in a text, and the tokens read so far. -/
structure Lexer where
  text : List Char
  cursor : Cursor
  tokens : List Token

namespace Lexer

/-- A reading that has not begun. -/
def ofText (text : String) : Lexer := ⟨text.toList, .start text.toList, []⟩

/-- The character at some distance from the cursor. Before the beginning of the text lies its
end. -/
def character? (lexer : Lexer) (offset : Int) : Option Char :=
  let index := lexer.cursor.position.offset + offset
  if 0 ≤ index then lexer.text[index.toNat]?
  else if 0 ≤ index + lexer.text.length then lexer.text[(index + lexer.text.length).toNat]?
  else none

/-- Steps that move the cursor without adding tokens. -/
def moveTo (lexer : Lexer) (cursor : Cursor) : Lexer := { lexer with cursor := cursor }

/-- Moves past one character. -/
def advance (lexer : Lexer) : Lexer := lexer.moveTo lexer.cursor.advance

/-- Moves to the end of a gap. -/
def skipGap (lexer : Lexer) : Except Fault Unit × Lexer :=
  let scan := lexer.cursor.skipGap
  (scan.result, lexer.moveTo scan.cursor)

/-- Reads a string, whatever character stands first. -/
def readString (lexer : Lexer) : Except Fault String × Lexer :=
  let scan := lexer.cursor.readString
  (String.ofList <$> scan.result, lexer.moveTo scan.cursor)

/-- Reads a word or a number, which may be empty. -/
def readWord (lexer : Lexer) : String × Lexer :=
  let (word, cursor) := lexer.cursor.readWord
  (String.ofList word, lexer.moveTo cursor)

/-- Reads tokens to the end or to the first fault, and returns them behind those read before. -/
def readTokens (lexer : Lexer) : Except Fault (List Token) × Lexer :=
  let lexed := lexer.cursor.readTokens
  let tokens := lexer.tokens ++ lexed.tokens
  let result := match lexed.fault with
    | some fault => .error fault
    | none => .ok tokens
  (result, { lexer with cursor := lexed.cursor, tokens := tokens })

end Lexer

end ShaderVariants
