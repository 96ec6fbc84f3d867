import Std.Time.Zoned
import HiveTable.CommandLine
import HiveTable.Yaml.Document

/-! The program: the files of the system, the time of day, and the two output streams. -/
namespace HiveTable

/-- Makes of a system error what it says about the file. -/
def FileFault.ofSystem : IO.Error → FileFault
  | .noFileOrDirectory .. => .absent
  | .alreadyExists .. => .exists
  | .inappropriateType .. => .notDirectory
  | _ => .isDirectory

/-- The system's files are named by strings: other bytes are a bad name. -/
def FileFault.catching {α : Type} (path : Path.Bytes) (action : String → IO α) :
    IO (Except FileFault α) := do
  let some path := String.fromUTF8? ⟨path.toArray⟩ | return .error .badName
  try return .ok (← action path) catch e => return .error (.ofSystem e)

def opens (path : String) : IO Bool := do
  try
    discard (IO.FS.Handle.mk path .read)
    return true
  catch _ => return false

/-- A random name for a request. -/
def randomName : IO String := do
  let groups ← [8, 4, 4, 4, 12].mapM fun width => do
    return String.ofList (Text.Quoted.hexDigits width (← IO.rand 0 (Nat.pow 16 width - 1)))
  return "-".intercalate groups

/-- How the log is kept. The names of requests come from one random name. -/
structure LogSettings where
  requestName : String
  threshold : Int
  colored : Bool

/-- The settings of the environment. -/
def LogSettings.ofSystem : IO LogSettings := do
  let level := (← IO.getEnv "HIVEDDL_LOG_LEVEL").map Text.ofString
  let color := (← IO.getEnv "LOG_COLOR").map Text.ofString
  let isTerminal ← (← IO.getStdout).isTty
  return ⟨← randomName, Log.threshold level, Log.isColored color isTerminal⟩

/-- The system's files, with the log on the output stream. -/
@[reducible] def systemFiles (log : LogSettings) : FileStore IO where
  kind? path := do
    let some path := String.fromUTF8? ⟨path.toArray⟩ | return none
    if path.isEmpty then return none
    if (← opens (path ++ "/.")) then return some .directory
    if (← opens path) then return some .file
    return none
  read path := FileFault.catching path fun path => IO.FS.readFile path
  makeDirectory path := FileFault.catching path fun path => IO.FS.createDir path
  write path text := FileFault.catching path fun path => IO.FS.writeFile path text
  report e := do
    match Log.entry? log.threshold log.colored (.text e.name)
      (e.payload (fun _ => log.requestName) .zero) (.int e.level.number) with
    | .ok (some (_, text)) => IO.println text
    | _ => return

/-- The local time, to the second. -/
def now : IO Moment := do
  let t ← Std.Time.PlainDateTime.now
  let date : Date :=
    ⟨t.date.year.toInt.toNat, t.date.month.val.toNat, t.date.day.val.toNat⟩
  return ⟨date, t.time.hour.val.toNat, t.time.minute.val.toNat, t.time.second.val.toNat, 0, none⟩

/-- A text on a terminal, where a half is shown by its code. -/
def shown (t : Text) : String :=
  String.ofList (t.flatMap fun
    | .char c => [c]
    | .half n => Text.Quoted.codeEscape (Letter.half n).code)

/-- Runs the program on the system's files; the result is the exit status. -/
def runProgram (arguments : List String) : IO UInt32 := do
  let files := systemFiles (← LogSettings.ofSystem)
  let result ← @CommandLine.run IO _ files Yaml.load (← now) arguments
  match result with
  | .ok output =>
    IO.print (shown output.shown)
    IO.eprint (shown output.complaints)
    return .ofNat output.exit
  | .error f =>
    IO.eprintln (shown (f.message?.getD "The configuration cannot be used."))
    return 1

end HiveTable

def main (arguments : List String) : IO UInt32 := HiveTable.runProgram arguments
