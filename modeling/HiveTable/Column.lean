import HiveTable.Failure
import HiveTable.HiveType
import HiveTable.Value.Entries
import HiveTable.Value.Opened

/-! Columns of a source table, and the shapes in which a source describes them. -/
namespace HiveTable

structure Column where
  name : Value
  type : TypeCode
  precision : Option Nat
  scale : Option Nat

/-- A column as such, or a value that describes one: a type, a list of type, precision and
scale, or a mapping. -/
inductive ColumnInfo
  | column (c : Column)
  | value (v : Value)

namespace Column

def size (name : Value) (field : SizeField) : Value → Except ColumnFault (Option Nat)
  | .null => .ok none
  | .int n => if 0 ≤ n then .ok (some n.toNat) else .error (.size name field (.int n))
  | v => .error (.size name field v)

def make (name type precision scale : Value) : Except ColumnFault Column := do
  if !name.isGiven then throw .emptyName
  let type ← (TypeCode.ofValue type).mapError .type
  let precision ← size name .precision precision
  let scale ← size name .scale scale
  return ⟨name, type, precision, scale⟩

/-- From a name, a type and, if they are given, a precision and a scale. -/
def ofValues : List Value → Except Failure Column
  | [name, type] => (make name type .null .null).mapError .column
  | [name, type, precision] => (make name type precision .null).mapError .column
  | [name, type, precision, scale] => (make name type precision scale).mapError .column
  | _ => .error .wrongKind

/-- The same column under another name. -/
def rename (name : Value) (c : Column) : Except ColumnFault Column :=
  if c.name.same name then .ok c
  else if name.isGiven then .ok { c with name := name }
  else .error .emptyName

def ofFields (name : Value) (fields : Entries Value) : Except ColumnFault Column :=
  let optional (field : String) : Value := (fields.field? field).getD .null
  match (fields.field? "sql_type").getD (optional "type") with
  | .null => .error (.noType name)
  | type => make name type (optional "precision") (optional "scale")

def ofInfo (name : Value) : ColumnInfo → Except ColumnFault Column
  | .column c => rename name c
  | .value v =>
    match v.opened with
    | .mapping fields => ofFields name fields
    | .list [] => .error (.noType name)
    | .list (type :: sizes) => make name type (sizes.getD 0 .null) (sizes.getD 1 .null)
    | type => make name type .null .null

/-- The Hive type that the source type alone gives. -/
def hiveType? (c : Column) : Option HiveType :=
  c.type.hiveType?.map fun
    | .decimal _ => .sizedDecimal (c.precision.map Int.ofNat) (c.scale.map Int.ofNat)
    | t => t

end Column

end HiveTable
