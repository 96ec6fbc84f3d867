/-! UTF-8. Every character has one byte form; reading bytes never fails, because each
longest start of a character that cannot be completed counts as one replacement character. -/
namespace HiveTable.Text.Utf8

def encodeChar (c : Char) : List UInt8 :=
  let n := c.toNat
  if n < 0x80 then [.ofNat n]
  else if n < 0x800 then [.ofNat (0xC0 + n / 0x40), .ofNat (0x80 + n % 0x40)]
  else if n < 0x10000 then
    [.ofNat (0xE0 + n / 0x1000), .ofNat (0x80 + n / 0x40 % 0x40), .ofNat (0x80 + n % 0x40)]
  else
    [.ofNat (0xF0 + n / 0x40000), .ofNat (0x80 + n / 0x1000 % 0x40),
     .ofNat (0x80 + n / 0x40 % 0x40), .ofNat (0x80 + n % 0x40)]

def encode (s : List Char) : List UInt8 := s.flatMap encodeChar

/-- What stands for bytes that are no character. -/
def replacement : Char := '\uFFFD'

/-- The bytes that may follow a lead byte, and how many continuation bytes follow those.
The narrower ranges keep out overlong forms, surrogates and code points past the last. -/
def lead? (b : UInt8) : Option (Nat × Nat × Nat) :=
  let n := b.toNat
  if 0xC2 ≤ n ∧ n ≤ 0xDF then some (0x80, 0xBF, 0)
  else if n = 0xE0 then some (0xA0, 0xBF, 1)
  else if n = 0xED then some (0x80, 0x9F, 1)
  else if 0xE1 ≤ n ∧ n ≤ 0xEF then some (0x80, 0xBF, 1)
  else if n = 0xF0 then some (0x90, 0xBF, 2)
  else if 0xF1 ≤ n ∧ n ≤ 0xF3 then some (0x80, 0xBF, 2)
  else if n = 0xF4 then some (0x80, 0x8F, 2)
  else none

/-- The payload of a lead byte with `more` continuation bytes after the second byte. -/
def leadBits (b : UInt8) (more : Nat) : Nat :=
  match more with
  | 0 => b.toNat - 0xC0
  | 1 => b.toNat - 0xE0
  | _ => b.toNat - 0xF0

def isContinuation (b : UInt8) : Bool := 0x80 ≤ b.toNat && b.toNat ≤ 0xBF

/-- `more` continuation bytes: their payload joined to `bits`, or none as soon as one is
missing; with the bytes left over. -/
def continuations (bits : Nat) : Nat → List UInt8 → Option Nat × List UInt8
  | 0, bytes => (some bits, bytes)
  | _ + 1, [] => (none, [])
  | more + 1, b :: bytes =>
    if isContinuation b then continuations (bits * 0x40 + (b.toNat - 0x80)) more bytes
    else (none, b :: bytes)

theorem length_continuations (bits more : Nat) (bytes : List UInt8) :
    (continuations bits more bytes).2.length ≤ bytes.length := by
  induction more generalizing bits bytes with
  | zero => simp [continuations]
  | succ more ih =>
    cases bytes with
    | nil => simp [continuations]
    | cons b bytes =>
      by_cases h : isContinuation b
      · simpa [continuations, h] using Nat.le_succ_of_le (ih _ _)
      · simp [continuations, h]

/-- The first character of a nonempty text of bytes, and the bytes after it. -/
def first (b : UInt8) (bytes : List UInt8) : Char × List UInt8 :=
  if b.toNat < 0x80 then (.ofNat b.toNat, bytes)
  else
    match lead? b, bytes with
    | some (low, high, more), second :: rest =>
      if low ≤ second.toNat ∧ second.toNat ≤ high then
        match continuations (leadBits b more * 0x40 + (second.toNat - 0x80)) more rest with
        | (some n, rest) => (.ofNat n, rest)
        | (none, rest) => (replacement, rest)
      else (replacement, bytes)
    | _, _ => (replacement, bytes)

theorem length_first (b : UInt8) (bytes : List UInt8) :
    (first b bytes).2.length ≤ bytes.length := by
  unfold first
  split
  · simp
  · split
    · split
      · rename_i more second rest _ _
        have h := length_continuations (leadBits b more * 0x40 + (second.toNat - 0x80)) more rest
        split <;> simp_all <;> omega
      · simp
    · simp

def decode : List UInt8 → List Char
  | [] => []
  | b :: bytes => (first b bytes).1 :: decode (first b bytes).2
termination_by bytes => bytes.length
decreasing_by
  have := length_first b bytes
  simp; omega

/-- Whether bytes are the bytes of a text. -/
def isText (bytes : List UInt8) : Bool := encode (decode bytes) == bytes

end HiveTable.Text.Utf8
