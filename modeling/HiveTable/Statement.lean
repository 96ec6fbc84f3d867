import HiveTable.Codec
import HiveTable.Delimiter
import HiveTable.Options
import HiveTable.Path
import HiveTable.Resolution
import HiveTable.SchemaSource

/-! The two statements of a table definition: one creates the table, one moves the imported
files into it. -/
namespace HiveTable
open Number

structure Statements where
  createTable : Text
  loadData : Text
  deriving DecidableEq

/-- The statements under their field names. -/
def Statements.fields (s : Statements) : List (String × Text) :=
  [("create_table", s.createTable), ("load_data", s.loadData)]

/-- What a definition is made from. -/
structure Definition where
  options : Options
  source : Option SchemaSource
  inputTable : Value
  outputTable : Value
  withComments : Bool
  terminate : Bool
  /-- When the definition is made, for the comment on the table. -/
  clock : Moment
  overrides : NameMap Text

namespace Definition

/-- The overrides are read once and for all. -/
def make (options : Options) (source : Option SchemaSource) (inputTable outputTable : Value)
    (withComments terminate : Bool) (clock : Moment) : Except Failure Definition := do
  if !outputTable.isGiven then throw .noOutputTable
  let overrides ← Overrides.ofValue options.overrides
  return ⟨options, source, inputTable, outputTable, withComments, terminate, clock, overrides⟩

/-- A text can be folded or joined to a path; nothing else can. -/
def textOf (otherwise : Failure) : Value → Except Failure Text
  | .text t => .ok t
  | _ => .error otherwise

def tableName (d : Definition) : Text :=
  let name (v : Value) : Text := "`" ++ v.display ++ "`"
  if d.options.database.isGiven then name d.options.database ++ "." ++ name d.outputTable
  else name d.outputTable

def close (d : Definition) (statement : Text) : Text :=
  if d.terminate then statement ++ ";" else statement

/-- Where the imported files are: the target directory if there is one, else a directory
named after the table, under the warehouse directory. -/
def sourcePath (d : Definition) : Except Failure Text := do
  let name :=
    if d.options.targetDir.isGiven then d.options.targetDir
    else if d.inputTable.isGiven then d.inputTable
    else d.outputTable
  return Path.join (← textOf .wrongKind d.options.warehouseDir) (← textOf .wrongKind name)

/-- The partition is a column of its own and must not be one of the table. -/
def checkPartition (d : Definition) (columns : List Column) : Except Failure Unit :=
  let key := d.options.partitionKey
  if !key.isGiven then .ok ()
  else
    columns.forM fun c => do
      let name ← textOf .notText c.name
      if Text.fold name = Text.fold (← textOf .notText key) then
        throw (.refused (.partitionIsColumn c.name))

def resolve (d : Definition) (c : Column) : Except Failure Text :=
  (Resolution.ofColumn (!·.isEmpty) d.overrides c).map (·.text)

def columnClause (columns : List (Value × Text)) : Text :=
  Text.listed (columns.map fun c => "`" ++ c.1.display ++ "` " ++ c.2)

def stamp (m : Moment) : String :=
  natText m.date.year ++ "/" ++ padded 2 m.date.month ++ "/" ++ padded 2 m.date.day ++ " " ++
    padded 2 m.hour ++ ":" ++ padded 2 m.minute ++ ":" ++ padded 2 m.second

def rowFormat (d : Definition) : Except Failure String := do
  let escape (v : Value) := (Delimiter.escape v).mapError fun f => (Refusal.delimiter f).failure
  let field ← escape d.options.fieldDelimiter
  let line ← escape d.options.lineDelimiter
  return "ROW FORMAT DELIMITED FIELDS TERMINATED BY '" ++ field ++ "' LINES TERMINATED BY '" ++
    line ++ "'"

/-- Text files compressed with an index need a format that can split them. -/
def storage (d : Definition) : Except Failure String := do
  if ← Codec.isIndexed d.options.codec then
    return "STORED AS INPUTFORMAT 'com.hadoop.mapred.DeprecatedLzoTextInputFormat' OUTPUTFORMAT" ++
      " 'org.apache.hadoop.hive.ql.io.HiveIgnoreKeyTextOutputFormat'"
  else return "STORED AS TEXTFILE"

/-- The part of the statement up to the row format. -/
def heading (d : Definition) (columns : List (Value × Text)) : Text :=
  "CREATE " ++ (if d.options.externalDir.isGiven then "EXTERNAL " else "") ++ "TABLE " ++
    (if d.options.failIfExists.isGiven then "" else "IF NOT EXISTS ") ++ d.tableName ++
    " ( " ++ columnClause columns ++ ") " ++
    (if d.withComments then "COMMENT 'Imported by hiveddl on " ++ stamp d.clock ++ "' " else "") ++
    (if d.options.partitionKey.isGiven then
      "PARTITIONED BY (" ++ d.options.partitionKey.display ++ " STRING) "
    else "")

/-- Where the table is kept if not in the warehouse. -/
def location (d : Definition) : Except Failure Text :=
  if !d.options.externalDir.isGiven then .ok ""
  else if d.options.externalDir.hasLongNumber then .error .unusable
  else .ok (" LOCATION '" ++ d.options.externalDir.display ++ "'")

/-- The columns come with their types in the new table. -/
def createTable (d : Definition) (columns : List (Value × Text)) : Except Failure Text := do
  let row ← d.rowFormat
  let storage ← d.storage
  let location ← d.location
  return d.close (d.heading columns ++ row ++ " " ++ storage ++ location)

def loadData (d : Definition) : Except Failure Text := do
  let path ← d.sourcePath
  return d.close ("LOAD DATA INPATH '" ++ path ++ "'" ++
    (if d.options.overwrite.isGiven then " OVERWRITE" else "") ++ " INTO TABLE " ++ d.tableName ++
    (if d.options.partitionKey.isGiven then
      " PARTITION (" ++ d.options.partitionKey.display ++ "='" ++
        d.options.partitionValue.display ++ "')"
    else ""))

end Definition

end HiveTable
