import HiveTable.Value
import HiveTable.Number.Numeral
import HiveTable.Number.Shortest
import HiveTable.Text.Quoted

/-! Texts of values: `display` shows a text as it is, `quoted` shows every value so that
texts and numbers cannot be confused. A collection inside itself is shown by three points. -/
namespace HiveTable
open Number

def Date.quoted (d : Date) : String :=
  "datetime.date(" ++ ", ".intercalate (d.fields.map natText) ++ ")"

/-- An offset west of universal time is a day less and the seconds that are left of it. -/
def Moment.quotedOffset (o : Int) : String :=
  if o = 0 then "datetime.timezone.utc"
  else if o < 0 then
    "datetime.timezone(datetime.timedelta(days=-1, seconds=" ++ intText (86400 + o * 60) ++ "))"
  else "datetime.timezone(datetime.timedelta(seconds=" ++ intText (o * 60) ++ "))"

def Moment.quoted (m : Moment) : String :=
  let zone := m.offset.map fun o => "tzinfo=" ++ Moment.quotedOffset o
  "datetime.datetime(" ++ ", ".intercalate (m.fields.map natText ++ zone.toList) ++ ")"

namespace Value

mutual
def quoted : Value → String
  | .null => "None"
  | .bool b => if b then "True" else "False"
  | .int n => intText n
  | .float x => x.text
  | .text t => Text.Quoted.encode t
  | .date d => d.quoted
  | .moment m => m.quoted
  | .list items => "[" ++ ", ".intercalate (quotedItems items) ++ "]"
  | .mapping entries => "\x7b" ++ ", ".intercalate (quotedEntries entries) ++ "\x7d"
  | .anchored _ v => quoted v
  | .enclosing _ isMapping => if isMapping then "\x7b...\x7d" else "[...]"

def quotedItems : List Value → List String
  | [] => []
  | v :: rest => quoted v :: quotedItems rest

def quotedEntries : List (Value × Value) → List String
  | [] => []
  | (k, v) :: rest => (quoted k ++ ": " ++ quoted v) :: quotedEntries rest
end

mutual
/-- A value with such a number in it has no text. -/
def hasLongNumber : Value → Bool
  | .int n => isLong n
  | .list items => anyLong items
  | .mapping entries => anyLongEntry entries
  | .anchored _ v => hasLongNumber v
  | _ => false

def anyLong : List Value → Bool
  | [] => false
  | v :: rest => hasLongNumber v || anyLong rest

def anyLongEntry : List (Value × Value) → Bool
  | [] => false
  | (k, v) :: rest => hasLongNumber k || hasLongNumber v || anyLongEntry rest
end

def display : Value → Text
  | .text t => t
  | .date d => d.text
  | .moment m => m.text
  | v => v.quoted

end Value

end HiveTable
