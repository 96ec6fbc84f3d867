import HiveTable.Text.Printable

/-! The quoted form of a text: between single quotes, or between double quotes if it holds
single quotes only; what cannot be shown is escaped by its code. -/
namespace HiveTable.Text.Quoted

def lowerHexDigit (n : Nat) : Char := if n < 10 then .ofNat (0x30 + n) else .ofNat (0x61 + (n - 10))

/-- The last `width` hexadecimal digits of a number. -/
def hexDigits (width n : Nat) : List Char :=
  match width with
  | 0 => []
  | width + 1 => hexDigits width (n / 16) ++ [lowerHexDigit (n % 16)]

def codeEscape (n : Nat) : List Char :=
  if n < 0x100 then '\\' :: 'x' :: hexDigits 2 n
  else if n < 0x10000 then '\\' :: 'u' :: hexDigits 4 n
  else '\\' :: 'U' :: hexDigits 8 n

def escape (quote : Char) : Letter → List Char
  | .char c =>
    if c == quote || c == '\\' then ['\\', c]
    else if c == '\n' then ['\\', 'n']
    else if c == '\r' then ['\\', 'r']
    else if c == '\t' then ['\\', 't']
    else if isPrintable (.char c) then [c]
    else codeEscape c.toNat
  | .half n => codeEscape (Letter.half n).code

def quoteFor (t : Text) : Char :=
  if t.contains (.char '\'') && !t.contains (.char '"') then '"' else '\''

def encode (t : Text) : String :=
  let quote := quoteFor t
  String.ofList (quote :: t.flatMap (escape quote) ++ [quote])

end HiveTable.Text.Quoted
