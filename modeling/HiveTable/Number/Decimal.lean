/-! Decimal numerals: the digits of a number, most significant first, and back. -/
namespace HiveTable.Number

def digits (n : Nat) : List Nat :=
  if n < 10 then [n] else digits (n / 10) ++ [n % 10]

def ofDigits (ds : List Nat) : Nat := ds.foldl (fun n d => n * 10 + d) 0

def digitChar (d : Nat) : Char := .ofNat (0x30 + d)

def natText (n : Nat) : String := String.ofList ((digits n).map digitChar)

def intText : Int → String
  | .ofNat n => natText n
  | .negSucc n => "-" ++ natText (n + 1)

/-- Zeros stand in front of a numeral that is shorter than `width`. -/
def padded (width n : Nat) : String :=
  let ds := digits n
  String.ofList ((List.replicate (width - ds.length) 0 ++ ds).map digitChar)

theorem ofDigits_append (ds : List Nat) (d : Nat) :
    ofDigits (ds ++ [d]) = ofDigits ds * 10 + d := by
  simp [ofDigits]

theorem ofDigits_digits (n : Nat) : ofDigits (digits n) = n := by
  induction n using Nat.strongRecOn with
  | ind n ih =>
    rw [digits]
    split
    · simp [ofDigits]
    · rw [ofDigits_append, ih (n / 10) (by omega)]; omega

theorem length_digits_le (n k : Nat) (h : n < Nat.pow 10 (k + 1)) : (digits n).length ≤ k + 1 := by
  induction k generalizing n with
  | zero =>
    have h : n < 10 := h
    rw [digits, if_pos h]; simp
  | succ k ih =>
    rw [digits]
    split
    · simp
    · have h : n < Nat.pow 10 (k + 1) * 10 := h
      have := ih (n / 10) (by omega)
      simp; omega

end HiveTable.Number
