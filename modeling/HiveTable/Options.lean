import HiveTable.Codec
import HiveTable.Overrides
import HiveTable.Value.Opened

/-! The options of a table definition. Their values are taken as they come; what a value must
be shows where it is used. -/
namespace HiveTable

structure Options where
  /-- Where the imported files are, under the warehouse directory. -/
  targetDir : Value := .null
  warehouseDir : Value := .text "/user/hive/staging"
  database : Value := .null
  externalDir : Value := .null
  partitionKey : Value := .null
  partitionValue : Value := .null
  codec : Value := .null
  overrides : Value := .null
  fieldDelimiter : Value := .text ","
  lineDelimiter : Value := .text "\n"
  overwrite : Value := .bool false
  failIfExists : Value := .bool false

namespace Options

/-- The options under their names, in order. -/
def fields (o : Options) : List (String × Value) :=
  [("target_dir", o.targetDir), ("warehouse_dir", o.warehouseDir), ("hive_database", o.database),
   ("external_table_dir", o.externalDir), ("partition_key", o.partitionKey),
   ("partition_value", o.partitionValue), ("compression_codec", o.codec),
   ("map_column_hive", o.overrides), ("field_delimiter", o.fieldDelimiter),
   ("line_delimiter", o.lineDelimiter), ("overwrite_table", o.overwrite),
   ("fail_if_table_exists", o.failIfExists)]

/-- A name that is no option changes nothing. -/
def set (o : Options) (name : String) (v : Value) : Options :=
  match name with
  | "target_dir" => { o with targetDir := v }
  | "warehouse_dir" => { o with warehouseDir := v }
  | "hive_database" => { o with database := v }
  | "external_table_dir" => { o with externalDir := v }
  | "partition_key" => { o with partitionKey := v }
  | "partition_value" => { o with partitionValue := v }
  | "compression_codec" => { o with codec := v }
  | "map_column_hive" => { o with overrides := v }
  | "field_delimiter" => { o with fieldDelimiter := v }
  | "line_delimiter" => { o with lineDelimiter := v }
  | "overwrite_table" => { o with overwrite := v }
  | "fail_if_table_exists" => { o with failIfExists := v }
  | _ => o

def isOption (name : String) : Bool := (fields {}).any (·.1 == name)

/-- A partition has a key that is not blank and a value, and a codec must be known. -/
def check (o : Options) : Except Failure Options := do
  if o.partitionKey.isNull != o.partitionValue.isNull then
    throw (.refused .halfPartition)
  if !o.partitionKey.isNull && o.partitionKey.display.isBlankText then
    throw (.refused .blankPartitionKey)
  if o.codec.isGiven then
    let _ ← Codec.ofValue o.codec
  return o

def assign (entries : Entries Value) : Except Failure Options :=
  entries.foldlM (fun o e =>
    match e.1 with
    | .text name =>
      match name.string?.filter isOption with
      | some name => .ok (o.set name e.2)
      | none => .error .wrongKind
    | _ => .error .wrongKind) {}

/-- Every key must be the name of an option. -/
def ofKeywords : Value → Except Failure Options
  | .mapping entries => do (← assign entries).check
  | _ => .error .wrongKind

/-- A key and a value out of one item: a list, a text or the keys of a mapping, of length two. -/
def entryOf (item : Value) : Except Failure (Value × Value) :=
  match item.opened with
  | .list [k, v] => if k.isKey then .ok (k, v) else .error .wrongKind
  | .list _ => .error .unusable
  | .text [k, v] => .ok (.text [k], .text [v])
  | .text _ => .error .unusable
  | .mapping [(k, _), (v, _)] => .ok (k, v)
  | .mapping _ => .error .unusable
  | _ => .error .wrongKind

/-- A mapping, or a list of pairs; nothing given means no entries. -/
def entriesOf (v : Value) : Except Failure (Entries Value) :=
  if !v.isGiven then .ok []
  else
    match v.opened with
    | .mapping entries => .ok entries
    | .list items => items.foldlM (fun entries item => do
        let (k, v) ← entryOf item
        return entries.put k v) []
    | .text _ => .error .unusable
    | _ => .error .wrongKind

/-- The texts, if all are texts. -/
def texts? : List Value → Option (List Text)
  | [] => some []
  | .text t :: rest => (texts? rest).map (t :: ·)
  | _ :: _ => none

/-- Refuses names outside `known`, in the order of their codes; a name that is no text cannot
even be refused. -/
def checkNames (known : String → Bool) (refusal : List Text → Refusal) (names : List Value) :
    Except Failure Unit :=
  match names.filter fun | .text t => !t.string?.any known | _ => true with
  | [] => .ok ()
  | unknown =>
    match texts? unknown with
    | some l => .error (.refused (refusal (l.mergeSort fun a b =>
        decide (¬ b.codes < a.codes))))
    | none => .error .wrongKind

/-- A key or value of a partition may be a number; its text is meant. -/
def textual : Value → Except Failure Value
  | .null => .ok .null
  | v => if v.hasLongNumber then .error .unusable else .ok (.text v.display)

def ofValue (v : Value) : Except Failure Options := do
  let entries ← entriesOf v
  checkNames isOption .unknownOptions (entries.map (·.1))
  let o ← assign entries
  let partitionKey ← textual o.partitionKey
  let partitionValue ← textual o.partitionValue
  { o with partitionKey, partitionValue }.check

end Options

end HiveTable
