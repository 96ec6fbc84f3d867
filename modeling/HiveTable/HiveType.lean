import HiveTable.SqlType

/-! The Hive type that holds the values of a source type. -/
namespace HiveTable
open Number

/-- A decimal may have a precision and a scale. -/
inductive HiveType
  | int | string | double | boolean | tinyint | bigint
  | decimal (size : Option (Int × Int))
  deriving DecidableEq

namespace HiveType

/-- The largest precision and the largest scale of a decimal. -/
def maxDigits : Int := 38

/-- A decimal with both sizes; if one is too large, both become the largest. -/
def sizedDecimal (precision scale : Option Int) : HiveType :=
  match precision, scale with
  | some p, some s =>
    .decimal (some (if p > maxDigits ∨ s > maxDigits then (maxDigits, maxDigits) else (p, s)))
  | _, _ => .decimal none

def text : HiveType → String
  | .int => "INT"
  | .string => "STRING"
  | .double => "DOUBLE"
  | .boolean => "BOOLEAN"
  | .tinyint => "TINYINT"
  | .bigint => "BIGINT"
  | .decimal none => "DECIMAL"
  | .decimal (some (p, s)) => "DECIMAL(" ++ intText p ++ ", " ++ intText s ++ ")"

end HiveType

namespace SqlType

/-- Types without a Hive counterpart have none. -/
def hiveType? : SqlType → Option HiveType
  | .integer | .smallint => some .int
  | .varchar | .char | .longVarchar | .nvarchar | .nchar | .longNvarchar
  | .date | .time | .timestamp | .clob => some .string
  | .numeric | .float | .double | .real => some .double
  | .bit | .boolean => some .boolean
  | .tinyint => some .tinyint
  | .bigint => some .bigint
  | .decimal => some (.decimal none)
  | _ => none

/-- Hive holds these only in a more general form. -/
def isImprovised : SqlType → Bool
  | .date | .time | .timestamp | .numeric => true
  | _ => false

end SqlType

namespace TypeCode

def hiveType? : TypeCode → Option HiveType
  | .standard t => t.hiveType?
  | .vendor _ => none

def isImprovised : TypeCode → Bool
  | .standard t => t.isImprovised
  | .vendor _ => false

end TypeCode

end HiveTable
