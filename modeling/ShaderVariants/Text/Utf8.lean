import ShaderVariants.Text.Quoted

/-!
# Reading UTF-8

Strict decoding of bytes. The first sequence that is not well-formed stops the reading, and the
error says where it begins, how many bytes up to the fault could still have begun a character,
and what is wrong with it.
-/

namespace ShaderVariants.Text.Utf8

/-- What is wrong with a sequence of bytes. -/
inductive Fault where
  | startByte
  | continuationByte
  | endOfData
  deriving DecidableEq, Repr

def Fault.reason : Fault → String
  | .startByte => "invalid start byte"
  | .continuationByte => "invalid continuation byte"
  | .endOfData => "unexpected end of data"

/-- Where and why decoding stopped: `length` bytes from `position` on, the first being `byte`. -/
structure DecodeError where
  fault : Fault
  position : Nat
  length : Nat
  byte : UInt8
  deriving DecidableEq, Repr

/-- The error in words: one byte is shown, several are counted. -/
def DecodeError.message (error : DecodeError) : String :=
  let subject :=
    if error.length = 1 then
      s!"byte 0x{String.ofList (hexDigits 2 error.byte.toNat)} in position "
        ++ toString error.position
    else
      s!"bytes in position {error.position}-{error.position + error.length - 1}"
  s!"'utf-8' codec can't decode {subject}: {error.fault.reason}"

/-- A byte that may follow the first one of a sequence. -/
def isContinuation (byte : UInt8) : Bool := 0x80 ≤ byte && byte < 0xc0

/-- A byte that may be second after `first`: overlong forms, surrogates and numbers beyond the
last code point are shut out here. -/
def isSecond (first byte : UInt8) : Bool :=
  isContinuation byte
    && (first != 0xe0 || 0xa0 ≤ byte) && (first != 0xed || byte < 0xa0)
    && (first != 0xf0 || 0x90 ≤ byte) && (first != 0xf4 || byte < 0x90)

/-- The six payload bits of a continuation byte. -/
def payload (byte : UInt8) : Nat := byte.toNat % 0x40

/-- Decodes bytes of which the first stands at the given position. -/
def decodeFrom (position : Nat) : List UInt8 → Except DecodeError (List Char)
  | [] => .ok []
  | b :: rest =>
    let fail fault length := .error ⟨fault, position, length, b⟩
    if b < 0x80 then
      (Char.ofNat b.toNat :: ·) <$> decodeFrom (position + 1) rest
    else if b < 0xc2 then fail .startByte 1
    else if b < 0xe0 then
      match rest with
      | [] => fail .endOfData 1
      | b₁ :: rest =>
        if isContinuation b₁ then
          (Char.ofNat (b.toNat % 0x20 * 0x40 + payload b₁) :: ·)
            <$> decodeFrom (position + 2) rest
        else fail .continuationByte 1
    else if b < 0xf0 then
      match rest with
      | [] => fail .endOfData 1
      | [b₁] => if isSecond b b₁ then fail .endOfData 2 else fail .continuationByte 1
      | b₁ :: b₂ :: rest =>
        if !isSecond b b₁ then fail .continuationByte 1
        else if isContinuation b₂ then
          (Char.ofNat ((b.toNat % 0x10 * 0x40 + payload b₁) * 0x40 + payload b₂) :: ·)
            <$> decodeFrom (position + 3) rest
        else fail .continuationByte 2
    else if b < 0xf5 then
      match rest with
      | [] => fail .endOfData 1
      | [b₁] => if isSecond b b₁ then fail .endOfData 2 else fail .continuationByte 1
      | [b₁, b₂] =>
        if !isSecond b b₁ then fail .continuationByte 1
        else if isContinuation b₂ then fail .endOfData 3
        else fail .continuationByte 2
      | b₁ :: b₂ :: b₃ :: rest =>
        if !isSecond b b₁ then fail .continuationByte 1
        else if !isContinuation b₂ then fail .continuationByte 2
        else if isContinuation b₃ then
          (Char.ofNat (((b.toNat % 0x08 * 0x40 + payload b₁) * 0x40 + payload b₂) * 0x40
            + payload b₃) :: ·) <$> decodeFrom (position + 4) rest
        else fail .continuationByte 3
    else fail .startByte 1

/-- The characters that the bytes encode. -/
def decode (bytes : List UInt8) : Except DecodeError (List Char) := decodeFrom 0 bytes

end ShaderVariants.Text.Utf8
