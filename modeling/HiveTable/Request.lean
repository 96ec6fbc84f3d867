import HiveTable.Writer

/-! Requests for a table definition: a mapping with the source table, its columns and the
options of the new table. -/
namespace HiveTable

structure Answer where
  inputTable : Value
  outputTable : Value
  statements : Statements

namespace Answer

/-- The answer under its field names. -/
def body (a : Answer) : List (String × Value) :=
  [("status", .text "SUCCESS"), ("input_table", a.inputTable), ("output_table", a.outputTable),
   ("create_table", .text a.statements.createTable), ("load_data", .text a.statements.loadData)]

end Answer

namespace Request

def isKey (name : String) : Bool :=
  ["input_table", "output_table", "columns", "options", "with_comments",
   "terminate_statements"].contains name

/-- Columns and options are checked before anything is made. -/
def definition (clock : Moment) (request : Value) : Except Failure Definition := do
  let .mapping fields := request.opened | throw (.refused .requestNotMapping)
  let field (name : String) : Value := (Entries.field? fields name).getD .null
  Options.checkNames isKey .unknownRequestKeys (fields.map (·.1))
  let inputTable := field "input_table"
  if !inputTable.isGiven then throw (.refused .noInputTable)
  let outputTable := if (field "output_table").isGiven then field "output_table" else inputTable
  let specs ← match (field "columns").opened with
    | .null => pure (.list [])
    | .list specs => pure (.list specs)
    | _ => throw (.refused .columnsNotList)
  let catalog ← (Catalog.ofSpecs inputTable specs).mapError fun
    | .column fault => .refused (.column fault)
    | f => f
  let options ← Options.ofValue (field "options")
  Definition.make options (some catalog.source) inputTable outputTable
    (field "with_comments").isGiven (field "terminate_statements").isGiven clock

/-- The answer to a request, and what was reported on the way. A request that is refused
before the work starts is reported as rejected. -/
def answer (clock : Moment) (request : Value) : Except Failure Answer × List Event :=
  match definition clock request with
  | .error (.refused r) => (.error (.refused r), [.rejected r])
  | .error f => (.error f, [])
  | .ok d =>
    let (result, w) := Writer.generate.run { definition := d }
    (result.map (⟨d.inputTable, d.outputTable, ·⟩), w.events)

/-- The response to a request over the network: refusals are the client's to mend. -/
structure Response where
  status : Nat
  body : Value

def entries (fields : List (String × Value)) : Value :=
  .mapping (fields.map fun f => (.text f.1, f.2))

def respond (clock : Moment) (request : Value) : Except Failure Response :=
  match (answer clock request).1 with
  | .ok a => .ok ⟨200, entries a.body⟩
  | .error (.refused r) =>
    .ok ⟨422, entries [("detail", entries [("status", .text "ERROR"), ("error", .text r.label),
      ("message", .text r.message)])]⟩
  | .error f => .error f

end Request

end HiveTable
