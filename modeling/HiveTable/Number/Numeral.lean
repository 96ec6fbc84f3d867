import HiveTable.Number.Decimal
import HiveTable.Text.Digit

/-! Whole numbers written in decimal digits of any script, with one minus sign at most. -/
namespace HiveTable.Number

/-- Longer numerals are refused, and longer numbers are not written. -/
def maxNumeralDigits : Nat := 4300

/-- Whether the numeral of a number has too many digits. -/
def isLong (n : Int) : Bool := Nat.pow 10 maxNumeralDigits ≤ n.natAbs

inductive NumeralFault
  | unreadable (numeral : Text)
  | tooLong (digits : Nat)
  deriving DecidableEq

/-- Only digits after any number of minus signs. Not all of these can be read: a digit may
have no place value, and one minus sign is the most. -/
def looksNumeric (t : Text) : Bool :=
  let rest := t.dropWhile (· == .char '-')
  !rest.isEmpty && rest.all Text.isDigit

/-- The values of the decimal digits at the start of a text. -/
def leadingDigits : Text → List Nat
  | [] => []
  | l :: rest =>
    match Text.digitValue? l with
    | some d => d :: leadingDigits rest
    | none => []

def readNumeral (t : Text) : Except NumeralFault Int :=
  let (negative, body) :=
    match t with
    | .char '-' :: rest => (true, rest)
    | body => (false, body)
  let ds := leadingDigits body
  if ds.length > maxNumeralDigits then .error (.tooLong ds.length)
  else if ds.isEmpty || ds.length < body.length then .error (.unreadable t)
  else .ok (if negative then -(ofDigits ds : Int) else ofDigits ds)

end HiveTable.Number
