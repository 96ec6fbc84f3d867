import HiveTable.Failure
import HiveTable.Value.Json

/-! What a request reports while it is answered, and the record that is logged of it. -/
namespace HiveTable
open Number

inductive Level
  | info | warning | error
  deriving DecidableEq

def Level.number : Level → Int
  | .info => 20
  | .warning => 30
  | .error => 40

/-- Requests are numbered, so that a report can be told from those of other requests. -/
inductive Event
  | started (request : Nat) (inputTable outputTable database : Value)
  | improvised (table column : Value) (type : String) (hiveType : Text)
  | failed (request : Nat) (outputTable : Value) (refusal : Refusal)
  | generated (request : Nat) (outputTable : Value) (columns : Nat)
  | rejected (refusal : Refusal)
  | written (outputTable : Value) (path : Text)

namespace Event

def name : Event → String
  | .started .. => "TABLE_DDL_GENERATION_STARTED"
  | .improvised .. => "COLUMN_TYPE_IMPROVISED"
  | .failed .. => "TABLE_DDL_GENERATION_FAILED"
  | .generated .. => "TABLE_DDL_GENERATED"
  | .rejected _ => "TABLE_DDL_REQUEST_REJECTED"
  | .written .. => "TABLE_DDL_SCRIPT_WRITTEN"

def level : Event → Level
  | .improvised .. => .warning
  | .failed .. => .error
  | _ => .info

/-- The fields of a report. How requests are named and how long the work took is for the
caller to say. -/
def fields (requestName : Nat → String) (duration : Binary64) : Event → List (String × Value)
  | .started request inputTable outputTable database =>
    [("request_id", .text (requestName request)), ("input_table", inputTable),
     ("output_table", outputTable), ("database", database)]
  | .improvised table column type hiveType =>
    [("table", table), ("column", column), ("sql_type", .text type),
     ("hive_type", .text hiveType),
     ("message", .text ("Column " ++ column.display ++
       " had to be cast to a less precise type in Hive"))]
  | .failed request outputTable refusal =>
    [("request_id", .text (requestName request)), ("output_table", outputTable),
     ("error", .text refusal.label), ("message", .text refusal.message)]
  | .generated request outputTable columns =>
    [("request_id", .text (requestName request)), ("output_table", outputTable),
     ("columns", .int columns), ("duration_seconds", .float duration)]
  | .rejected refusal => [("message", .text refusal.message)]
  | .written outputTable path => [("output_table", outputTable), ("path", .text path)]

def payload (requestName : Nat → String) (duration : Binary64) (e : Event) : Entries Value :=
  (e.fields requestName duration).map fun f => (.text f.1, f.2)

/-- The record of a report: its name first. A field of that name would replace it. -/
def record (name : Value) (fields : Entries Value) : Entries Value :=
  fields.foldl (fun entries e => entries.put e.1 e.2) [(.text "event_type", name)]

/-- The text of a record. -/
def logged (record : Entries Value) : Except Failure String :=
  (Value.mapping record).json.mapError fun
    | .key => .wrongKind
    | .endless => .unusable

def text (requestName : Nat → String) (duration : Binary64) (e : Event) : Except Failure String :=
  logged (record (.text e.name) (e.payload requestName duration))

end Event

end HiveTable
