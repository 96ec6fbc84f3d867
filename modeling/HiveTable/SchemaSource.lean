import HiveTable.Column
import HiveTable.NameMap

/-! Where the columns of a source table are learned: their names in order, and what is known
of each. -/
namespace HiveTable

structure SchemaSource where
  columnNames : Value → Except Failure (List Value)
  columnInfo : Value → Except Failure (Entries ColumnInfo)

/-- One source table with its columns. -/
structure Catalog where
  table : Value
  columns : List Column

namespace Catalog

/-- A description is a mapping with a name. -/
def columnOf (spec : Value) : Except Failure Column :=
  match spec.opened with
  | .mapping fields =>
    let name := (Entries.field? fields "name").getD .null
    if name.isGiven then (Column.ofFields name fields).mapError .column
    else .error (.column (.notDescribed spec))
  | _ => .error (.column (.notDescribed spec))

/-- What a value holds when its parts are taken one by one. -/
def itemsOf (v : Value) : Except Failure (List Value) :=
  match v.opened with
  | .list items => .ok items
  | .text t => .ok (t.map fun l => .text [l])
  | .mapping entries => .ok (entries.map (·.1))
  | _ => .error .wrongKind

def ofSpecs (table specs : Value) : Except Failure Catalog := do
  let columns ← (← itemsOf specs).mapM columnOf
  if table.isKey then return ⟨table, columns⟩ else throw .wrongKind

def columnsOf (c : Catalog) (table : Value) : Except Failure (List Column) :=
  if !table.isKey then .error .wrongKind
  else if table.same c.table then .ok c.columns
  else .error (.unknownTable table)

/-- The columns by name. Of columns with one name, in any letter case, one stays. -/
def infoOf (c : Catalog) (table : Value) : Except Failure (NameMap Column) := do
  let columns ← c.columnsOf table
  match Entries.ofPairs? (columns.map fun c => (c.name, c)) with
  | some entries => NameMap.ofEntries entries
  | none => throw .wrongKind

def source (c : Catalog) : SchemaSource where
  columnNames table := (c.columnsOf table).map fun columns => columns.map (·.name)
  columnInfo table := (c.infoOf table).map fun m => m.entries.map fun e => (e.1, .column e.2)

end Catalog

/-- A source that knows one list of columns and says it of every table. -/
def SchemaSource.fixed (names : List Value) (info : Entries ColumnInfo) : SchemaSource where
  columnNames _ := .ok names
  columnInfo _ := .ok info

end HiveTable
