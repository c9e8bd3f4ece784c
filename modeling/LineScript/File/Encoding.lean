import LineScript.Numeral
import LineScript.Text.Quoted

/-!
# Decoding the bytes of a file

A file is decoded strictly: the first byte sequence that is not part of the encoding is a
`DecodeFault`, which says where it stands, how many bytes it takes and what is wrong with it. In
UTF-8 the faulty sequence is the longest start of a well-formed character; a lead byte whose
successor is not allowed after it, which rules out overlong forms, surrogates and code points past
`U+10FFFF`, is faulty by itself.
-/

namespace LineScript

/-- The encodings of a file. -/
inductive Encoding where
  | utf8 | ascii | latin1
  deriving DecidableEq

/-- What is wrong with a byte sequence. -/
inductive DecodeReason where
  | invalidStart | invalidContinuation | unexpectedEnd | notAscii
  deriving DecidableEq

/-- The first byte sequence of a file that cannot be decoded. -/
structure DecodeFault where
  encoding : Encoding
  /-- The offset of the sequence in the file. -/
  position : Nat
  /-- The number of bytes in the sequence. -/
  length : Nat
  /-- The first byte of the sequence. -/
  byte : UInt8
  reason : DecodeReason
  deriving DecidableEq

namespace DecodeReason

/-- The wording of a reason. -/
def message : DecodeReason → String
  | invalidStart => "invalid start byte"
  | invalidContinuation => "invalid continuation byte"
  | unexpectedEnd => "unexpected end of data"
  | notAscii => "ordinal not in range(128)"

end DecodeReason

namespace Encoding

/-- The name of an encoding. -/
def name : Encoding → String
  | utf8 => "utf-8"
  | ascii => "ascii"
  | latin1 => "latin-1"

/-- Every encoding. -/
def all : List Encoding := [utf8, ascii, latin1]

/-- The encoding with a given name. -/
def ofName? (name : String) : Option Encoding := all.find? fun encoding => encoding.name == name

end Encoding

namespace DecodeFault

/-- The wording of a decoding fault. -/
def message (f : DecodeFault) : String :=
  let place :=
    if f.length = 1 then
      "byte 0x" ++ Text.toString (Text.hexDigits 2 f.byte.toNat) ++ " in position " ++
        Numeral.count f.position
    else
      "bytes in position " ++ Numeral.count f.position ++ "-" ++
        Numeral.count (f.position + f.length - 1)
  "'" ++ f.encoding.name ++ "' codec can't decode " ++ place ++ ": " ++ f.reason.message

end DecodeFault

namespace Utf8

/-- Whether a byte continues a character. -/
def isTail (b : UInt8) : Bool := 0x80 ≤ b && b ≤ 0xBF

/-- Whether a byte can follow the lead byte of a character of three or four bytes. -/
def isSecond (lead b : UInt8) : Bool :=
  isTail b && (lead != 0xE0 || 0xA0 ≤ b) && (lead != 0xED || b ≤ 0x9F) &&
    (lead != 0xF0 || 0x90 ≤ b) && (lead != 0xF4 || b ≤ 0x8F)

/-- The six bits a continuation byte carries. -/
def tailBits (b : UInt8) : Nat := b.toNat % 64

/-- The character of two bytes. -/
def char₂ (a b : UInt8) : Char := Char.ofNat (a.toNat % 32 * 64 + tailBits b)

/-- The character of three bytes. -/
def char₃ (a b c : UInt8) : Char :=
  Char.ofNat ((a.toNat % 16 * 64 + tailBits b) * 64 + tailBits c)

/-- The character of four bytes. -/
def char₄ (a b c d : UInt8) : Char :=
  Char.ofNat (((a.toNat % 8 * 64 + tailBits b) * 64 + tailBits c) * 64 + tailBits d)

/-- The text that bytes from an offset on encode. -/
def decodeFrom (position : Nat) : List UInt8 → Except DecodeFault Text
  | [] => .ok []
  | a :: rest =>
    let fault (length : Nat) (reason : DecodeReason) : Except DecodeFault Text :=
      .error ⟨.utf8, position, length, a, reason⟩
    if a < 0x80 then (decodeFrom (position + 1) rest).map (Char.ofNat a.toNat :: ·)
    else if a < 0xC2 then fault 1 .invalidStart
    else if a < 0xE0 then
      match rest with
      | [] => fault 1 .unexpectedEnd
      | b :: rest =>
        if isTail b then (decodeFrom (position + 2) rest).map (char₂ a b :: ·)
        else fault 1 .invalidContinuation
    else if a < 0xF0 then
      match rest with
      | [] => fault 1 .unexpectedEnd
      | [b] => if isSecond a b then fault 2 .unexpectedEnd else fault 1 .invalidContinuation
      | b :: c :: rest =>
        if !isSecond a b then fault 1 .invalidContinuation
        else if !isTail c then fault 2 .invalidContinuation
        else (decodeFrom (position + 3) rest).map (char₃ a b c :: ·)
    else if a < 0xF5 then
      match rest with
      | [] => fault 1 .unexpectedEnd
      | [b] => if isSecond a b then fault 2 .unexpectedEnd else fault 1 .invalidContinuation
      | [b, c] =>
        if !isSecond a b then fault 1 .invalidContinuation
        else if !isTail c then fault 2 .invalidContinuation
        else fault 3 .unexpectedEnd
      | b :: c :: d :: rest =>
        if !isSecond a b then fault 1 .invalidContinuation
        else if !isTail c then fault 2 .invalidContinuation
        else if !isTail d then fault 3 .invalidContinuation
        else (decodeFrom (position + 4) rest).map (char₄ a b c d :: ·)
    else fault 1 .invalidStart

end Utf8

namespace Encoding

/-- The text that ASCII bytes from an offset on encode. -/
def decodeAsciiFrom (position : Nat) : List UInt8 → Except DecodeFault Text
  | [] => .ok []
  | b :: rest =>
    if b < 0x80 then (decodeAsciiFrom (position + 1) rest).map (Char.ofNat b.toNat :: ·)
    else .error ⟨.ascii, position, 1, b, .notAscii⟩

/-- The text that bytes encode. -/
def decode (encoding : Encoding) (bytes : List UInt8) : Except DecodeFault Text :=
  match encoding with
  | utf8 => Utf8.decodeFrom 0 bytes
  | ascii => decodeAsciiFrom 0 bytes
  | latin1 => .ok (bytes.map fun b => Char.ofNat b.toNat)

end Encoding

end LineScript
