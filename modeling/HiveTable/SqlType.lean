import HiveTable.Number.Numeral
import HiveTable.Text.Blank
import HiveTable.Text.Case
import HiveTable.Value

/-! The types of source columns: the standard ones of database drivers, each with a name and
a code, and codes that only a vendor knows. -/
namespace HiveTable
open Number

inductive SqlType
  | bit | tinyint | smallint | integer | bigint | float | real | double | numeric | decimal | char
  | varchar | longVarchar | date | time | timestamp | binary | varbinary | longVarbinary | null |
  other | javaObject | distinct | struct | array | blob | clob | ref | datalink | boolean | rowId
  | nchar | nvarchar | longNvarchar | nclob | sqlXml | refCursor | timeWithTimezone |
  timestampWithTimezone
  deriving DecidableEq

namespace SqlType

def all : List SqlType :=
  [.bit, .tinyint, .smallint, .integer, .bigint, .float, .real, .double, .numeric, .decimal,
   .char, .varchar, .longVarchar, .date, .time, .timestamp, .binary, .varbinary, .longVarbinary,
   .null, .other, .javaObject, .distinct, .struct, .array, .blob, .clob, .ref, .datalink, .boolean,
   .rowId, .nchar, .nvarchar, .longNvarchar, .nclob, .sqlXml, .refCursor, .timeWithTimezone,
   .timestampWithTimezone]

def name : SqlType → String
  | .bit => "BIT"
  | .tinyint => "TINYINT"
  | .smallint => "SMALLINT"
  | .integer => "INTEGER"
  | .bigint => "BIGINT"
  | .float => "FLOAT"
  | .real => "REAL"
  | .double => "DOUBLE"
  | .numeric => "NUMERIC"
  | .decimal => "DECIMAL"
  | .char => "CHAR"
  | .varchar => "VARCHAR"
  | .longVarchar => "LONGVARCHAR"
  | .date => "DATE"
  | .time => "TIME"
  | .timestamp => "TIMESTAMP"
  | .binary => "BINARY"
  | .varbinary => "VARBINARY"
  | .longVarbinary => "LONGVARBINARY"
  | .null => "NULL"
  | .other => "OTHER"
  | .javaObject => "JAVA_OBJECT"
  | .distinct => "DISTINCT"
  | .struct => "STRUCT"
  | .array => "ARRAY"
  | .blob => "BLOB"
  | .clob => "CLOB"
  | .ref => "REF"
  | .datalink => "DATALINK"
  | .boolean => "BOOLEAN"
  | .rowId => "ROWID"
  | .nchar => "NCHAR"
  | .nvarchar => "NVARCHAR"
  | .longNvarchar => "LONGNVARCHAR"
  | .nclob => "NCLOB"
  | .sqlXml => "SQLXML"
  | .refCursor => "REF_CURSOR"
  | .timeWithTimezone => "TIME_WITH_TIMEZONE"
  | .timestampWithTimezone => "TIMESTAMP_WITH_TIMEZONE"

/-- The code by which drivers report the type. -/
def code : SqlType → Int
  | .bit => -7
  | .tinyint => -6
  | .smallint => 5
  | .integer => 4
  | .bigint => -5
  | .float => 6
  | .real => 7
  | .double => 8
  | .numeric => 2
  | .decimal => 3
  | .char => 1
  | .varchar => 12
  | .longVarchar => -1
  | .date => 91
  | .time => 92
  | .timestamp => 93
  | .binary => -2
  | .varbinary => -3
  | .longVarbinary => -4
  | .null => 0
  | .other => 1111
  | .javaObject => 2000
  | .distinct => 2001
  | .struct => 2002
  | .array => 2003
  | .blob => 2004
  | .clob => 2005
  | .ref => 2006
  | .datalink => 70
  | .boolean => 16
  | .rowId => -8
  | .nchar => -15
  | .nvarchar => -9
  | .longNvarchar => -16
  | .nclob => 2011
  | .sqlXml => 2009
  | .refCursor => 2012
  | .timeWithTimezone => 2013
  | .timestampWithTimezone => 2014

def ofName? (t : Text) : Option SqlType := all.find? fun type => t == Text.ofString type.name

def ofCode? (n : Int) : Option SqlType := all.find? (·.code == n)

end SqlType

/-- Codes without a standard type are kept: they name no Hive type, but an override can. -/
inductive TypeCode
  | standard (type : SqlType)
  | vendor (code : Int)
  deriving DecidableEq

/-- How a type may be given: a standard type as such, or a value that names one. -/
inductive GivenType
  | type (type : SqlType)
  | value (v : Value)

/-- Why a value names no type. -/
inductive TypeFault
  | unknown (given : Value)
  | numeral (fault : NumeralFault)

namespace TypeCode

def ofCode (n : Int) : TypeCode :=
  match SqlType.ofCode? n with
  | some t => .standard t
  | none => .vendor n

def code : TypeCode → Int
  | .standard t => t.code
  | .vendor n => n

/-- The name of a standard type, else the code. -/
def describe : TypeCode → String
  | .standard t => t.name
  | .vendor n => intText n

/-- The same as a value. -/
def asValue : TypeCode → Value
  | .standard t => .text t.name
  | .vendor n => .int n

/-- A code, a numeral of a code, or a name in any letter case. -/
def ofValue : Value → Except TypeFault TypeCode
  | .int n => .ok (ofCode n)
  | .text t =>
    let key := t.trim.upper
    if looksNumeric key then
      match readNumeral key with
      | .ok n => .ok (ofCode n)
      | .error fault => .error (.numeral fault)
    else
      match SqlType.ofName? key with
      | some type => .ok (.standard type)
      | none => .error (.unknown (.text t))
  | v => .error (.unknown v)

def ofGiven : GivenType → Except TypeFault TypeCode
  | .type t => .ok (.standard t)
  | .value v => ofValue v

/-- A code that only a vendor knows is given as a number. -/
def given : TypeCode → GivenType
  | .standard t => .type t
  | .vendor n => .value (.int n)

end TypeCode

end HiveTable
