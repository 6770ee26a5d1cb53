import ShaderVariants.Text.CharacterName
import ShaderVariants.Text.Quoted

/-!
# Escapes

Inside quotation marks a backslash gives the characters after it another meaning: single letters
for the usual controls, up to three octal digits, two, four or eight hexadecimal digits behind
`x`, `u` and `U`, or the name of a character in braces behind `N`. A backslash at the end of a
line joins it with the next one, and before any other character it stands for itself.
-/

namespace ShaderVariants.Text.Escape

/-- Why a text cannot be unescaped. -/
inductive Problem where
  | truncated (letter : Char) (width : Nat)
  | noCharacter
  | malformedName
  | unknownName
  deriving DecidableEq, Repr

def Problem.message : Problem → String
  | .truncated letter width =>
    "truncated \\" ++ String.singleton letter ++ String.ofList (List.replicate width 'X')
      ++ " escape"
  | .noCharacter => "illegal Unicode character"
  | .malformedName => "malformed \\N character escape"
  | .unknownName => "unknown Unicode character name"

/-- The character that a single letter behind a backslash stands for. -/
def ofLetter? (c : Char) : Option Char :=
  match c with
  | '\\' => some '\\'
  | '\'' => some '\''
  | '"' => some '"'
  | 'a' => some '\x07'
  | 'b' => some '\x08'
  | 'f' => some '\x0c'
  | 'n' => some '\n'
  | 'r' => some '\r'
  | 't' => some '\t'
  | 'v' => some '\x0b'
  | _ => none

def character? (code : Nat) : Option Char := if code.isValidChar then some (Char.ofNat code) else none

def isOctal (c : Char) : Bool := '0' ≤ c ∧ c ≤ '7'

def octalNumber (cs : List Char) : Nat :=
  cs.foldl (fun number c => 8 * number + (c.toNat - '0'.toNat)) 0

/-- Number of hexadecimal digits behind a letter that announces them. -/
def hexWidth? : Char → Option Nat
  | 'x' => some 2
  | 'u' => some 4
  | 'U' => some 8
  | _ => none

/-- The character that a name in braces stands for, and how many characters name and braces are. -/
def readName : List Char → Except Problem (List Char × Nat)
  | '{' :: rest =>
    let name := rest.takeWhile (· ≠ '}')
    if name.isEmpty || name.length = rest.length then .error .malformedName
    else match CharacterName.code? name >>= character? with
      | some c => .ok ([c], name.length + 2)
      | none => .error .unknownName
  | _ => .error .malformedName

/-- The characters that an escape stands for, and how many characters it takes behind its first
one, which the backslash stands in front of. -/
def read (first : Char) (rest : List Char) : Except Problem (List Char × Nat) :=
  if first = '\n' then .ok ([], 0)
  else if isOctal first then
    let more := (rest.take 2).takeWhile isOctal
    match character? (octalNumber (first :: more)) with
    | some c => .ok ([c], more.length)
    | none => .error .noCharacter
  else if first = 'N' then readName rest
  else
    match ofLetter? first, hexWidth? first with
    | some c, _ => .ok ([c], 0)
    | none, none => .ok (['\\', first], 0)
    | none, some width =>
      match hexNumber? width rest with
      | none => .error (.truncated first width)
      | some code =>
        match character? code with
        | some c => .ok ([c], width)
        | none => .error .noCharacter

/-- What an escaped text stands for. -/
def decodeChars : List Char → Except Problem (List Char)
  | [] => .ok []
  | ['\\'] => .ok ['\\']
  | '\\' :: first :: rest =>
    match read first rest with
    | .error problem => .error problem
    | .ok (cs, taken) => (cs ++ ·) <$> decodeChars (rest.drop taken)
  | c :: rest => (c :: ·) <$> decodeChars rest
termination_by cs => cs.length

/-- A text in which characters beyond the first 128 are escapes. -/
def toAscii (cs : List Char) : List Char :=
  cs.flatMap fun c => if c.toNat < 128 then [c] else Quoted.codeEscape c.toNat

end ShaderVariants.Text.Escape
