import Mathlib.Data.List.Basic
import HiveTable.Text.Blank
import HiveTable.Text.Percent

/-!
# Reading back what was encoded

UTF-8 bytes are read back to the character they came from (`decode_encodeChar`), and so is
percent-encoded text: `decode_encode`. What `encode` writes is ASCII and holds unreserved
characters and percent signs only (`mem_encode`). Whatever a text was written as, nothing is read
from it only if nothing was written (`decode_eq_nil_iff`).
-/

namespace HiveTable.Text

/-! ## UTF-8 -/

namespace Utf8

theorem toNat_ofNat {n : Nat} (h : n < 0x100) : (UInt8.ofNat n).toNat = n := by
  simpa using Nat.mod_eq_of_lt h

theorem continuations_cons {bits more n : Nat} {bytes : List UInt8} (h : n < 0x40) :
    continuations bits (more + 1) (.ofNat (0x80 + n) :: bytes) =
      continuations (bits * 0x40 + n) more bytes := by
  have hn : (UInt8.ofNat (0x80 + n)).toNat = 0x80 + n := toNat_ofNat (by omega)
  have hc : isContinuation (.ofNat (0x80 + n)) = true := by
    simp only [isContinuation, hn, Bool.and_eq_true, decide_eq_true_eq]
    omega
  simp only [continuations, hc, if_true, hn, Nat.add_sub_cancel_left]

/-- The code of a character is outside the surrogate halves and not past the last one. -/
theorem toNat_lt (c : Char) : c.toNat < 0xD800 ∨ 0xDFFF < c.toNat ∧ c.toNat < 0x110000 := by
  have h := c.valid
  simp only [UInt32.isValidChar, Nat.isValidChar] at h
  exact h

/-- A lead byte and a second byte in its range begin the character that the payload of the
bytes adds up to. -/
theorem first_of_lead {b s : UInt8} {low high more n : Nat} {bytes rest : List UInt8}
    (hb : 0x80 ≤ b.toNat) (hlead : lead? b = some (low, high, more))
    (hs : low ≤ s.toNat ∧ s.toNat ≤ high)
    (hc : continuations (leadBits b more * 0x40 + (s.toNat - 0x80)) more bytes = (some n, rest)) :
    first b (s :: bytes) = (.ofNat n, rest) := by
  have hlow : ¬ b.toNat < 0x80 := by omega
  simp only [first, if_neg hlow, hlead, if_pos hs, hc]

theorem continuations_zero {k n : Nat} (h : k = n) (bytes : List UInt8) :
    continuations k 0 bytes = (some n, bytes) := by
  rw [continuations, h]

theorem first_two {n : Nat} (h : 0x80 ≤ n) (hn : n < 0x800) (rest : List UInt8) :
    first (.ofNat (0xC0 + n / 0x40)) (.ofNat (0x80 + n % 0x40) :: rest) = (.ofNat n, rest) := by
  have hb : (UInt8.ofNat (0xC0 + n / 0x40)).toNat = 0xC0 + n / 0x40 := toNat_ofNat (by omega)
  have hs : (UInt8.ofNat (0x80 + n % 0x40)).toNat = 0x80 + n % 0x40 := toNat_ofNat (by omega)
  have hlead : lead? (.ofNat (0xC0 + n / 0x40)) = some (0x80, 0xBF, 0) := by
    rw [lead?, hb]
    exact if_pos (by omega)
  have hbits : leadBits (.ofNat (0xC0 + n / 0x40)) 0 = n / 0x40 := by
    show (UInt8.ofNat _).toNat - 0xC0 = _
    omega
  refine first_of_lead (by omega) hlead (by omega) (continuations_zero ?_ rest)
  omega

theorem first_three {n : Nat} (h : 0x800 ≤ n) (hn : n < 0xD800 ∨ 0xDFFF < n ∧ n < 0x10000)
    (rest : List UInt8) :
    first (.ofNat (0xE0 + n / 0x1000))
      (.ofNat (0x80 + n / 0x40 % 0x40) :: .ofNat (0x80 + n % 0x40) :: rest) =
        (.ofNat n, rest) := by
  have hb : (UInt8.ofNat (0xE0 + n / 0x1000)).toNat = 0xE0 + n / 0x1000 := toNat_ofNat (by omega)
  have hs : (UInt8.ofNat (0x80 + n / 0x40 % 0x40)).toNat = 0x80 + n / 0x40 % 0x40 :=
    toNat_ofNat (by omega)
  obtain ⟨low, high, hlead, hlow, hhigh⟩ : ∃ low high,
      lead? (.ofNat (0xE0 + n / 0x1000)) = some (low, high, 1) ∧
        low ≤ 0x80 + n / 0x40 % 0x40 ∧ 0x80 + n / 0x40 % 0x40 ≤ high := by
    simp only [lead?, hb]
    rw [if_neg (by omega)]
    by_cases h0 : n / 0x1000 = 0
    · exact ⟨0xA0, 0xBF, by rw [if_pos (by omega)], by omega, by omega⟩
    rw [if_neg (by omega)]
    by_cases hd : n / 0x1000 = 0xD
    · exact ⟨0x80, 0x9F, by rw [if_pos (by omega)], by omega, by omega⟩
    · exact ⟨0x80, 0xBF, by rw [if_neg (by omega), if_pos (by omega)], by omega, by omega⟩
  have hbits : leadBits (.ofNat (0xE0 + n / 0x1000)) 1 = n / 0x1000 := by
    show (UInt8.ofNat _).toNat - 0xE0 = _
    omega
  refine first_of_lead (by omega) hlead (by omega) ?_
  rw [continuations_cons (Nat.mod_lt n (by decide))]
  refine continuations_zero ?_ rest
  omega

theorem first_four {n : Nat} (h : 0x10000 ≤ n) (hn : n < 0x110000) (rest : List UInt8) :
    first (.ofNat (0xF0 + n / 0x40000))
      (.ofNat (0x80 + n / 0x1000 % 0x40) :: .ofNat (0x80 + n / 0x40 % 0x40) ::
        .ofNat (0x80 + n % 0x40) :: rest) = (.ofNat n, rest) := by
  have hb : (UInt8.ofNat (0xF0 + n / 0x40000)).toNat = 0xF0 + n / 0x40000 :=
    toNat_ofNat (by omega)
  have hs : (UInt8.ofNat (0x80 + n / 0x1000 % 0x40)).toNat = 0x80 + n / 0x1000 % 0x40 :=
    toNat_ofNat (by omega)
  obtain ⟨low, high, hlead, hlow, hhigh⟩ : ∃ low high,
      lead? (.ofNat (0xF0 + n / 0x40000)) = some (low, high, 2) ∧
        low ≤ 0x80 + n / 0x1000 % 0x40 ∧ 0x80 + n / 0x1000 % 0x40 ≤ high := by
    simp only [lead?, hb]
    rw [if_neg (by omega), if_neg (by omega), if_neg (by omega), if_neg (by omega)]
    by_cases h0 : n / 0x40000 = 0
    · exact ⟨0x90, 0xBF, by rw [if_pos (by omega)], by omega, by omega⟩
    rw [if_neg (by omega)]
    by_cases h4 : n / 0x40000 = 4
    · exact ⟨0x80, 0x8F, by rw [if_neg (by omega), if_pos (by omega)], by omega, by omega⟩
    · exact ⟨0x80, 0xBF, by rw [if_pos (by omega)], by omega, by omega⟩
  have hbits : leadBits (.ofNat (0xF0 + n / 0x40000)) 2 = n / 0x40000 := by
    show (UInt8.ofNat _).toNat - 0xF0 = _
    omega
  refine first_of_lead (by omega) hlead (by omega) ?_
  rw [continuations_cons (Nat.mod_lt _ (by decide)), continuations_cons (Nat.mod_lt n (by decide))]
  refine continuations_zero ?_ rest
  omega

/-- The bytes of a character are read back to it, whatever follows them. -/
theorem decode_encodeChar (c : Char) (rest : List UInt8) :
    decode (encodeChar c ++ rest) = c :: decode rest := by
  have hc := toNat_lt c
  unfold encodeChar
  dsimp only
  split
  · rename_i h
    have hb : (UInt8.ofNat c.toNat).toNat = c.toNat := toNat_ofNat (by omega)
    simp [decode, first, hb, h]
  split
  · simp only [List.cons_append, List.nil_append, decode]
    rw [first_two (by omega) (by omega), Char.ofNat_toNat]
  split
  · simp only [List.cons_append, List.nil_append, decode]
    rw [first_three (by omega) (by omega), Char.ofNat_toNat]
  · simp only [List.cons_append, List.nil_append, decode]
    rw [first_four (by omega) (by omega), Char.ofNat_toNat]

theorem decode_encode (s : List Char) : decode (encode s) = s := by
  induction s with
  | nil => simp [encode, decode]
  | cons c s ih =>
    rw [encode, List.flatMap_cons, decode_encodeChar]
    exact congrArg (c :: ·) ih

end Utf8

/-! ## Percent signs -/

namespace Percent

theorem hexValue?_hexDigit {n : Nat} (h : n < 16) : hexValue? (hexDigit n) = some n := by
  have all : ∀ n : Fin 16, hexValue? (hexDigit n) = some n.val := by decide
  exact all ⟨n, h⟩

theorem isUnreserved_hexDigit {n : Nat} (h : n < 16) : isUnreserved (hexDigit n) = true := by
  have all : ∀ n : Fin 16, isUnreserved (hexDigit n) = true := by decide
  exact all ⟨n, h⟩

theorem toNat_lt_of_isUnreserved {c : Char} (h : isUnreserved c = true) : c.toNat < 0x80 := by
  have hupper : c.isUpper = true → c.toNat < 0x80 := fun h =>
    Nat.lt_of_le_of_lt (of_decide_eq_true h).2 (by decide)
  have hlower : c.isLower = true → c.toNat < 0x80 := fun h =>
    Nat.lt_of_le_of_lt (of_decide_eq_true (Bool.and_eq_true_iff.1 h).2) (by decide)
  have hdigit : c.isDigit = true → c.toNat < 0x80 := fun h =>
    Nat.lt_of_le_of_lt (of_decide_eq_true (Bool.and_eq_true_iff.1 h).2) (by decide)
  change ((((((c.isUpper || c.isLower) || c.isDigit) || c == '_') || c == '.') || c == '-') ||
    c == '~') = true at h
  simp only [Bool.or_eq_true, beq_iff_eq] at h
  rcases h with (((((h | h) | h) | rfl) | rfl) | rfl) | rfl
  · exact hupper h
  · exact hlower h
  · exact hdigit h
  all_goals decide

/-- What `encode` writes: unreserved characters, and the signs that begin an escape. -/
theorem mem_encode {s : List Char} {c : Char} (h : c ∈ encode s) :
    isUnreserved c = true ∨ c = '%' := by
  obtain ⟨d, -, hd⟩ := List.mem_flatMap.1 h
  unfold encodeChar at hd
  split at hd
  · rename_i hu
    obtain rfl := List.mem_singleton.1 hd
    exact .inl hu
  · obtain ⟨b, -, hb⟩ := List.mem_flatMap.1 hd
    have hlt := b.toNat_lt
    simp only [escape, List.mem_cons, List.not_mem_nil, or_false] at hb
    rcases hb with rfl | rfl | rfl
    · exact .inr rfl
    · exact .inl (isUnreserved_hexDigit (by omega))
    · exact .inl (isUnreserved_hexDigit (by omega))

theorem toNat_lt_of_mem_encode {s : List Char} {c : Char} (h : c ∈ encode s) :
    c.toNat < 0x80 := by
  rcases mem_encode h with hu | rfl
  · exact toNat_lt_of_isUnreserved hu
  · decide

theorem bytes_cons {c : Char} (h : c ≠ '%') (rest : List Char) :
    bytes (c :: rest) = .ofNat c.toNat :: bytes rest := by
  rw [bytes]
  rintro high low tail rfl rfl
  exact h rfl

theorem bytes_escape (b : UInt8) (rest : List Char) :
    bytes (escape b ++ rest) = b :: bytes rest := by
  have hlt := b.toNat_lt
  have hb : UInt8.ofNat (b.toNat / 16 * 16 + b.toNat % 16) = b := by
    rw [Nat.div_add_mod', UInt8.ofNat_toNat]
  show bytes ('%' :: hexDigit (b.toNat / 16) :: hexDigit (b.toNat % 16) :: rest) = _
  rw [bytes, hexValue?_hexDigit (by omega), hexValue?_hexDigit (by omega)]
  exact congrArg (· :: bytes rest) hb

theorem bytes_flatMap_escape (bs : List UInt8) (rest : List Char) :
    bytes (bs.flatMap escape ++ rest) = bs ++ bytes rest := by
  induction bs with
  | nil => rfl
  | cons b bs ih =>
    rw [List.flatMap_cons, List.append_assoc, bytes_escape, ih]
    rfl

theorem bytes_encodeChar (c : Char) (rest : List Char) :
    bytes (encodeChar c ++ rest) = Utf8.encodeChar c ++ bytes rest := by
  unfold encodeChar
  split
  · rename_i h
    have hne : c ≠ '%' := by
      rintro rfl
      exact absurd h (by decide)
    rw [Utf8.encodeChar, if_pos (toNat_lt_of_isUnreserved h)]
    exact bytes_cons hne rest
  · exact bytes_flatMap_escape _ rest

theorem bytes_encode (s : List Char) : bytes (encode s) = Utf8.encode s := by
  induction s with
  | nil => rfl
  | cons c s ih =>
    rw [encode, List.flatMap_cons, bytes_encodeChar]
    exact congrArg (Utf8.encodeChar c ++ ·) ih

/-- Text that is ASCII throughout is one stretch. -/
theorem decodeFrom_ofChars {s : List Char} (h : ∀ c ∈ s, c.toNat < 0x80) (pending : List Char) :
    decodeFrom pending (ofChars s) = ofChars (Utf8.decode (bytes (pending.reverse ++ s))) := by
  induction s generalizing pending with
  | nil => simp [ofChars, decodeFrom, decodeFrom.stretch]
  | cons c s ih =>
    have hc : c.toNat < 0x80 := h c List.mem_cons_self
    have hs : ∀ d ∈ s, d.toNat < 0x80 := fun d hd => h d (List.mem_cons_of_mem c hd)
    show decodeFrom pending (.char c :: ofChars s) = _
    rw [decodeFrom, if_pos hc, ih hs, List.reverse_cons, List.append_assoc]
    rfl

/-- The separators and the blanks of a text of overrides are never written as they are. -/
theorem plain_of_mem_encode {s : List Char} {c : Char} (h : c ∈ encode s) :
    c ≠ ',' ∧ c ≠ '=' ∧ isBlank (.char c) = false := by
  have all : ∀ n : Fin 0x80, isUnreserved (.ofNat n) = true ∨ Char.ofNat n = '%' →
      Char.ofNat n ≠ ',' ∧ Char.ofNat n ≠ '=' ∧ isBlank (.char (.ofNat n)) = false := by decide
  have hc := all ⟨c.toNat, toNat_lt_of_mem_encode h⟩
  simp only [Char.ofNat_toNat] at hc
  exact hc (mem_encode h)

theorem decode_encode (s : List Char) : decode (ofChars (encode s)) = ofChars s := by
  rw [decode, decodeFrom_ofChars fun _ => toNat_lt_of_mem_encode]
  show ofChars (Utf8.decode (bytes (encode s))) = ofChars s
  rw [bytes_encode, Utf8.decode_encode]

/-! ## Nothing is lost -/

theorem decode_bytes_eq_nil_iff {s : List Char} : Utf8.decode (bytes s) = [] ↔ s = [] := by
  have hbytes : bytes s = [] ↔ s = [] := by
    unfold bytes
    split
    · split <;> simp
    · simp
    · simp
  rw [← hbytes]
  cases bytes s <;> simp [Utf8.decode]

theorem decodeFrom_eq_nil_iff {pending : List Char} {t : Text} :
    decodeFrom pending t = [] ↔ pending = [] ∧ t = [] := by
  induction t generalizing pending with
  | nil => simp [decodeFrom, decodeFrom.stretch, ofChars, decode_bytes_eq_nil_iff]
  | cons l rest ih =>
    cases l with
    | half n => simp [decodeFrom]
    | char c =>
      rw [decodeFrom]
      split
      · simp [ih]
      · simp

/-- A text that is not empty stands for one that is not empty, with or without escapes. -/
theorem decode_eq_nil_iff {t : Text} : decode t = [] ↔ t = [] := by
  simp [decode, decodeFrom_eq_nil_iff]

end Percent

end HiveTable.Text
