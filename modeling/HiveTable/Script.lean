import HiveTable.Files
import HiveTable.Request
import HiveTable.Yaml.Loader

/-! Scripts: a configuration file describes one table, and the statements for it are written
to a file of the name of the table. -/
namespace HiveTable

structure Script where
  answer : Answer
  path : Text

namespace Script
variable {m : Type → Type} [Monad m] [FileStore m]

abbrev Action (m : Type → Type) (α : Type) := ExceptT Failure m α

/-- What stands at a path. One without bytes leads nowhere. -/
def kind? (path : Text) : Action m (Option FileKind) := do
  match Path.bytes? path with
  | some bytes => liftM (FileStore.kind? (m := m) bytes)
  | none => return none

/-- Uses a path, which must have bytes. -/
def attempt {α : Type} (path : Text) (use : Path.Bytes → m (Except FileFault α)) : Action m α := do
  let some bytes := Path.bytes? path | throw .unencodable
  match ← liftM (use bytes) with
  | .ok a => return a
  | .error .badName => throw .unusable
  | .error fault => throw (.file path fault)

/-- Line ends of all systems become line feeds. -/
def unifyLineEnds : List Char → List Char
  | [] => []
  | '\r' :: '\n' :: rest => '\n' :: unifyLineEnds rest
  | c :: rest => (if c = '\r' then '\n' else c) :: unifyLineEnds rest

/-- What is read from a file as a configuration. -/
def mapping (path : String) : Except Yaml.Fault Value → Except Failure (Entries Value)
  | .ok v =>
    match v.opened with
    | .mapping fields => .ok fields
    | _ => .error (.refused (.configNotMapping path))
  | .error .malformed => .error (.refused (.notYaml path))
  | .error .unusable => .error .unusable
  | .error .tooLarge => .error .tooLarge
  | .error .tooDeep => .error .tooDeep

/-- The configuration that the text of a file holds. -/
def document (load : Yaml.Loader) (path text : String) : Except Failure (Entries Value) :=
  mapping path (load (String.ofList (unifyLineEnds text.toList)))

/-- The configuration in a file. -/
def config (load : Yaml.Loader) (path : String) : Action m (Entries Value) := do
  if (← kind? path).isNone then throw (.configAbsent path)
  document load path (← attempt path FileStore.read)

/-- Makes one directory. It may be there already. -/
def makeDirectory (path : Text) : Action m Unit :=
  tryCatch (attempt path FileStore.makeDirectory) fun
    | .file place fault => do
      if (← kind? path) != some .directory then throw (.file place fault)
    | f => throw f

/-- Makes a directory and those it stands in. -/
def makeDirectories (fuel : Nat) (path : Text) : Action m Unit := do
  let (head, tail) := Path.parent path
  let missing ←
    if head.isEmpty || tail.isEmpty then pure false
    else
      let found ← kind? head
      pure found.isNone
  if missing then
    match fuel with
    | 0 => pure ()
    | fuel + 1 =>
      tryCatch (makeDirectories fuel head) fun
        | .file _ .exists => pure ()
        | f => throw f
  if missing && tail == Text.ofString "." then return
  makeDirectory path

/-- The request in a configuration. Statements in a script are always terminated. -/
def request (config : Entries Value) : Except Failure Value :=
  let field (name : String) (otherwise : Value) : Value := (config.field? name).getD otherwise
  if (field "input_table" .null).isGiven then
    .ok (Request.entries
      [("input_table", field "input_table" .null), ("output_table", field "output_table" .null),
       ("columns", field "columns" (.list [])), ("options", field "options" (.mapping [])),
       ("with_comments", field "with_comments" (.bool false)),
       ("terminate_statements", .bool true)])
  else .error (.refused .noInputTable)

/-- What is written one after the other. -/
def pieces (a : Answer) : List Text :=
  [a.statements.createTable, "\n\n", a.statements.loadData, "\n"]

/-- The pieces before the first with a half in it, joined. -/
def writable : List Text → String
  | [] => ""
  | piece :: rest =>
    match piece.string? with
    | some s => s ++ writable rest
    | none => ""

/-- Writes the script of an answer into a directory and says where it is. What comes before a
piece that cannot be written is written nevertheless. -/
def save (directory : Value) (a : Answer) : Action m Text := do
  let .text directory := directory | throw .wrongKind
  makeDirectories directory.length directory
  let path := Path.join directory (a.outputTable.display ++ ".hql")
  attempt path (FileStore.write · (writable (pieces a)))
  if (pieces a).any (·.string?.isNone) then throw .unencodable
  liftM (FileStore.report (m := m) (.written a.outputTable path))
  return path

/-- The answer to a configuration, with the reports of its request. -/
def respond (clock : Moment) (config : Entries Value) : Action m Answer := do
  let request ← request config
  let (result, events) := Request.answer clock request
  events.forM fun e => liftM (FileStore.report (m := m) e)
  result

/-- A directory that is given goes before that of the configuration. -/
def directoryOf (config : Entries Value) (given : Value) : Value :=
  if given.isGiven then given else (config.field? "output_dir").getD (.text "outputs")

/-- Makes the statements for a configuration and writes the script. -/
def make (clock : Moment) (config : Entries Value) (directory : Value) : Action m Script := do
  let answer ← respond clock config
  return ⟨answer, ← save (directoryOf config directory) answer⟩

/-- Reads a configuration and makes its script. -/
def execute (load : Yaml.Loader) (clock : Moment) (path : String) (directory : Value) :
    Action m Script := do
  make clock (← config load path) directory

end Script

end HiveTable
