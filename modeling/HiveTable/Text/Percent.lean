import HiveTable.Text
import HiveTable.Text.Utf8

/-! Percent-encoded text: a byte as a percent sign and two hexadecimal digits, a character
as the escapes of its UTF-8 bytes. Reading leaves a percent sign without two digits as it is. -/
namespace HiveTable.Text.Percent

def hexDigit (n : Nat) : Char := if n < 10 then .ofNat (0x30 + n) else .ofNat (0x41 + (n - 10))

def hexValue? (c : Char) : Option Nat :=
  if '0' ≤ c ∧ c ≤ '9' then some (c.toNat - 0x30)
  else if 'A' ≤ c ∧ c ≤ 'F' then some (c.toNat - 0x41 + 10)
  else if 'a' ≤ c ∧ c ≤ 'f' then some (c.toNat - 0x61 + 10)
  else none

/-- Characters that are written as they are. -/
def isUnreserved (c : Char) : Bool :=
  c.isAlphanum || c == '_' || c == '.' || c == '-' || c == '~'

def escape (b : UInt8) : List Char := ['%', hexDigit (b.toNat / 16), hexDigit (b.toNat % 16)]

def encodeChar (c : Char) : List Char :=
  if isUnreserved c then [c] else (Utf8.encodeChar c).flatMap escape

def encode (s : List Char) : List Char := s.flatMap encodeChar

/-- The bytes that an ASCII text stands for. -/
def bytes : List Char → List UInt8
  | '%' :: h :: l :: rest =>
    match hexValue? h, hexValue? l with
    | some high, some low => .ofNat (high * 16 + low) :: bytes rest
    | _, _ => .ofNat '%'.toNat :: bytes (h :: l :: rest)
  | c :: rest => .ofNat c.toNat :: bytes rest
  | [] => []

/-- Reads each stretch of ASCII on its own: bytes on the two sides of another letter never join
to one character. `pending` is the stretch so far, last character first. -/
def decodeFrom (pending : List Char) : Text → Text
  | [] => stretch
  | .char c :: rest =>
    if c.toNat < 0x80 then decodeFrom (c :: pending) rest
    else stretch ++ .char c :: decodeFrom [] rest
  | .half n :: rest => stretch ++ .half n :: decodeFrom [] rest
where
  stretch : Text := ofChars (Utf8.decode (bytes pending.reverse))

def decode (t : Text) : Text := decodeFrom [] t

end HiveTable.Text.Percent
