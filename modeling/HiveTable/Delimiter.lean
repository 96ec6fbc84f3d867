import HiveTable.Failure

/-! Delimiters of the stored text, as octal escapes. -/
namespace HiveTable.Delimiter

/-- The escape of a larger code would be read as a negative byte. -/
def maxCode : Nat := 127

def octal (n : Nat) : String :=
  String.ofList ('\\' :: [n / 64 % 8, n / 8 % 8, n % 8].map Number.digitChar)

def ofCode (n : Int) : Except DelimiterFault String :=
  if 0 ≤ n ∧ n ≤ maxCode then .ok (octal n.toNat) else .error (.outOfRange n)

/-- A single letter or the code of one. -/
def escape : Value → Except DelimiterFault String
  | .text [l] => ofCode l.code
  | .text t => .error (.notOneCharacter t)
  | .int n => ofCode n
  | v => .error (.notCode v)

end HiveTable.Delimiter
