import HiveTable.Event
import HiveTable.Statement

/-! Work on one definition: columns may be set or learned from the source, and what was
learned once is kept. Everything reported on the way is collected. -/
namespace HiveTable

/-- A definition with what is known so far. -/
structure Writer where
  definition : Definition
  types : Option (NameMap ColumnInfo) := none
  columns : Option (List Column) := none
  validated : Bool := false
  /-- How often the source was asked for names and for infos. -/
  nameCalls : Nat := 0
  infoCalls : Nat := 0
  requests : Nat := 0
  events : List Event := []

namespace Writer

/-- A step of the work. What it did before it failed stays done. -/
abbrev Action (α : Type) := ExceptT Failure (StateM Writer) α

/-- A column for each name, in order; every name must have an info. -/
def describeAll (names : List Value) (info : NameMap ColumnInfo) : Except Failure (List Column) :=
  names.mapM fun name =>
    match NameMap.nameOf name |>.toOption |>.bind info.get? with
    | none => .error (Refusal.unsupportedType name (.text "unknown")).failure
    | some i => (Column.ofInfo name i).mapError fun f => .refused (.column f)

/-- Sets the columns by hand. Nothing changes if a name is no text. -/
def setTypes (entries : Entries ColumnInfo) : Action Unit := do
  let types ← NameMap.ofEntries entries
  modify fun w => { w with types := some types, columns := none, validated := false }

/-- Asks the source for the names and the infos of the columns. -/
def learn : Action (List Value × NameMap ColumnInfo) := do
  let d := (← get).definition
  match d.source with
  | none => throw (.refused .noSchema)
  | some source =>
    if !d.inputTable.isGiven then throw (.refused .noSchema)
    modify fun w => { w with nameCalls := w.nameCalls + 1 }
    let names ← source.columnNames d.inputTable
    modify fun w => { w with infoCalls := w.infoCalls + 1 }
    let info ← NameMap.ofEntries (← source.columnInfo d.inputTable)
    return (names, info)

def describe : Action (List Column) := do
  match (← get).columns with
  | some columns => return columns
  | none =>
    let (names, info) ←
      match (← get).types with
      | some types => pure (types.names.map Value.text, types)
      | none => learn
    let columns ← describeAll names info
    modify fun w => { w with columns := some columns }
    return columns

/-- Checks once that every override is for one of the columns. -/
def validate : Action Unit := do
  if (← get).validated then return
  let columns ← describe
  checkOverrides (← get).definition.overrides (columns.map (·.name))
  modify fun w => { w with validated := true }

def emit (e : Event) : Action Unit := do
  let _ ← (e.text (fun _ => "") .zero : Except Failure String)
  modify fun w => { w with events := w.events ++ [e] }

/-- The type of a column in the new table. A type that Hive cannot hold exactly is reported. -/
def resolve (c : Column) : Action Text := do
  validate
  let d := (← get).definition
  let type ← d.resolve c
  if c.type.isImprovised then
    emit (.improvised d.outputTable c.name c.type.describe type)
  return type

def createTable : Action Text := do
  let columns ← describe
  validate
  (← get).definition.checkPartition columns
  let typed ← columns.mapM fun c => do return (c.name, ← resolve c)
  (← get).definition.createTable typed

def loadData : Action Text := do (← get).definition.loadData

def sourcePath : Action Text := do (← get).definition.sourcePath

def statements : Action Statements := do return ⟨← createTable, ← loadData⟩

/-- Both statements, or neither. A refusal is reported; other failures are not. -/
def generate : Action Statements := do
  let request := (← get).requests + 1
  modify fun w => { w with requests := request }
  let d := (← get).definition
  emit (.started request d.inputTable d.outputTable d.options.database)
  let statements ←
    tryCatch statements fun f => do
      match f with
      | .refused r => emit (.failed request d.outputTable r)
      | _ => pure ()
      throw f
  let columns ← describe
  emit (.generated request d.outputTable columns.length)
  return statements

/-- Both statements under their field names. -/
def generateFields : Action (List (String × Text)) := do return (← generate).fields

/-- Changes an option without any check of the value. -/
def setOption (name v : Value) : Action Unit := do
  let .text name := name | throw .wrongKind
  let set (o : Options) : Options := (name.string?.map (o.set · v)).getD o
  modify fun w => { w with definition := { w.definition with options := set w.definition.options } }

def setSource (source : SchemaSource) : Action Unit :=
  modify fun w => { w with definition := { w.definition with source := some source } }

end Writer

end HiveTable
