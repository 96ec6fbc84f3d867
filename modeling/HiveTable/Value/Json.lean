import HiveTable.Value.Text

/-! Values as JSON text in ASCII: a comma or colon is followed by one space, and a character
past ASCII is escaped by its UTF-16 units. -/
namespace HiveTable
open Number

namespace Json

def unit (n : Nat) : List Char := '\\' :: 'u' :: Text.Quoted.hexDigits 4 n

/-- A half is a unit of its own. -/
def units (n : Nat) : List Char :=
  if n < 0x10000 then unit n
  else unit (0xD800 + (n - 0x10000) / 0x400) ++ unit (0xDC00 + (n - 0x10000) % 0x400)

def escape : Letter → List Char
  | .char c =>
    if c == '"' || c == '\\' then ['\\', c]
    else if c == '\n' then ['\\', 'n']
    else if c == '\r' then ['\\', 'r']
    else if c == '\t' then ['\\', 't']
    else if c == '\x0c' then ['\\', 'f']
    else if c == '\x08' then ['\\', 'b']
    else if ' ' ≤ c ∧ c ≤ '~' then [c]
    else units c.toNat
  | .half n => units (Letter.half n).code

def string (t : Text) : String := String.ofList ('"' :: t.flatMap escape ++ ['"'])

def number : Binary64 → String
  | .nan => "NaN"
  | .infinite negative => if negative then "-Infinity" else "Infinity"
  | x => x.text

/-- Why a value has no JSON text. -/
inductive Fault
  /-- A day, a moment or a collection is a key. -/
  | key
  /-- A collection holds itself, or a number is too long. -/
  | endless
  deriving DecidableEq

def int (n : Int) : Except Fault String := if isLong n then .error .endless else .ok (intText n)

end Json

namespace Value

/-- A key is written as text. -/
def jsonKey : Value → Except Json.Fault Text
  | .null => .ok "null"
  | .bool b => .ok (if b then "true" else "false")
  | .int n => (Json.int n).map Text.ofString
  | .float x => .ok (Json.number x)
  | .text t => .ok t
  | _ => .error .key

mutual
/-- The first fault on the way through the value counts. -/
def json : Value → Except Json.Fault String
  | .null => .ok "null"
  | .bool b => .ok (if b then "true" else "false")
  | .int n => Json.int n
  | .float x => .ok (Json.number x)
  | .text t => .ok (Json.string t)
  | .date d => .ok (Json.string d.text)
  | .moment m => .ok (Json.string m.text)
  | .list items => (jsonItems items).map fun l => "[" ++ ", ".intercalate l ++ "]"
  | .mapping entries => (jsonEntries entries).map fun l => "\x7b" ++ ", ".intercalate l ++ "\x7d"
  | .anchored _ v => json v
  | .enclosing .. => .error .endless

def jsonItems : List Value → Except Json.Fault (List String)
  | [] => .ok []
  | v :: rest => do return (← json v) :: (← jsonItems rest)

def jsonEntries : List (Value × Value) → Except Json.Fault (List String)
  | [] => .ok []
  | (k, v) :: rest => do
    return (Json.string (← jsonKey k) ++ ": " ++ (← json v)) :: (← jsonEntries rest)
end

end Value

end HiveTable
