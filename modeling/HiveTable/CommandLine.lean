import HiveTable.Log
import HiveTable.Script
import HiveTable.Text.Cut

/-! The command line: which options there are, how arguments are read, and what is shown. -/
namespace HiveTable.CommandLine

inductive Flag
  | help | config | outputDir | print
  deriving DecidableEq

namespace Flag

/-- The spellings of all options, in order. -/
def spellings : List (String × Flag) :=
  [("-h", .help), ("--help", .help), ("--config", .config), ("--output-dir", .outputDir),
   ("--print", .print)]

def name : Flag → String
  | .help => "-h/--help"
  | .config => "--config"
  | .outputDir => "--output-dir"
  | .print => "--print"

end Flag

/-- What is asked for. -/
structure Settings where
  config : Option String := none
  outputDir : Option String := none
  print : Bool := false

/-- The directory that is given, if any. -/
def Settings.directory (s : Settings) : Value := (s.outputDir.map fun t => Value.text t).getD .null

/-- Why nothing is done. -/
inductive Stop
  | help
  | ambiguous (argument : String) (matching : List String)
  | noValue (flag : Flag)
  | needlessValue (flag : Flag) (value : String)
  | configMissing
  | unknown (arguments : List String)

def Stop.message : Stop → String
  | .help => ""
  | .ambiguous argument matching =>
    "ambiguous option: " ++ argument ++ " could match " ++ ", ".intercalate matching
  | .noValue flag => "argument " ++ flag.name ++ ": expected one argument"
  | .needlessValue flag value =>
    "argument " ++ flag.name ++ ": ignored explicit argument " ++ Text.Quoted.encode value
  | .configMissing => "the following arguments are required: --config"
  | .unknown arguments => "unrecognized arguments: " ++ " ".intercalate arguments

/-- What an argument is by its form. A value may be attached to an option, behind a sign or,
for a short option, directly. -/
inductive Argument
  | word (s : String)
  | option (flag : Flag) (isShort : Bool) (attached : Option String)
  | unknown (s : String)

/-- What stands before the first equals sign, and after it if there is one. -/
def cutValue (s : String) : String × Option String :=
  match Text.cut? '=' s.toList with
  | some (name, value) => (String.ofList name, some (String.ofList value))
  | none => (s, none)

/-- A minus sign and a number, with or without a point. -/
def isNegativeNumber (s : String) : Bool :=
  let isDigit (c : Char) : Bool := (Text.digitValue? (.char c)).isSome
  match s.toList with
  | '-' :: rest =>
    let rest := if rest.getLast? == some '\n' then rest.dropLast else rest
    let fraction := (rest.dropWhile isDigit).drop 1
    let whole := rest.all isDigit && !rest.isEmpty
    whole || (rest.dropWhile isDigit).head? == some '.' && !fraction.isEmpty &&
      fraction.all isDigit
  | _ => false

/-- An argument that looks like an option but is none. A blank in it makes it a word. -/
def noOption (s : String) : Argument :=
  if isNegativeNumber s || s.toList.contains ' ' then .word s else .unknown s

/-- Long options may be cut short as long as one of them fits. -/
def readLong (s : String) : Except Stop Argument :=
  let (name, attached) := cutValue s
  match Flag.spellings.filter fun f => name.isPrefixOf f.1 with
  | [] => .ok (noOption s)
  | [f] => .ok (.option f.2 false attached)
  | fits =>
    match Flag.spellings.lookup name with
    | some flag => .ok (.option flag false attached)
    | none => .error (.ambiguous s (fits.map (·.1)))

/-- A short option may be followed directly by a value or by more short options. -/
def readShort (s : String) : Argument :=
  match s.toList with
  | '-' :: 'h' :: [] => .option .help true none
  | '-' :: 'h' :: '=' :: value | '-' :: 'h' :: value =>
    .option .help true (some (String.ofList value))
  | _ => noOption s

def readArgument (s : String) : Except Stop Argument :=
  match s.toList with
  | '-' :: '-' :: _ => readLong s
  | '-' :: _ :: _ => .ok (readShort s)
  | _ => .ok (.word s)

/-- Two dashes alone make words of all arguments after them, but are no value themselves. -/
def readArguments : List String → Except Stop (List Argument)
  | [] => .ok []
  | s :: rest =>
    if s == "--" then .ok (.unknown s :: rest.map .word)
    else do return (← readArgument s) :: (← readArguments rest)

/-- The letters after a short option that takes no value are short options in their turn. -/
def readLetters : List Char → Stop
  | ['h'] => .help
  | 'h' :: rest => readLetters rest
  | rest => .needlessValue .help (String.ofList rest)

/-- Takes the options one by one; what is left over comes second. -/
def take : List Argument → Settings → Except Stop (Settings × List String)
  | [], settings => .ok (settings, [])
  | .word s :: rest, settings | .unknown s :: rest, settings => do
    let (settings, left) ← take rest settings
    return (settings, s :: left)
  | .option .help isShort attached :: _, _ =>
    match attached with
    | none => .error .help
    | some value =>
      .error (if isShort then readLetters value.toList else .needlessValue .help value)
  | .option .print _ attached :: rest, settings =>
    match attached with
    | none => take rest { settings with print := true }
    | some value => .error (.needlessValue .print value)
  | .option flag _ attached :: rest, settings =>
    let store (value : String) : Settings :=
      if flag = .config then { settings with config := some value }
      else { settings with outputDir := some value }
    match attached, rest with
    | some value, rest => take rest (store value)
    | none, .word value :: rest => take rest (store value)
    | none, _ => .error (.noValue flag)

/-- The configuration must be given, and nothing may be left over. -/
def parse (arguments : List String) : Except Stop (String × Settings) := do
  let (settings, left) ← take (← readArguments arguments) {}
  match settings.config with
  | none => throw .configMissing
  | some config => if left.isEmpty then return (config, settings) else throw (.unknown left)

def usage : String :=
  "usage: hiveddl [-h] --config CONFIG [--output-dir OUTPUT_DIR] [--print]\n"

def help : String :=
  usage ++ "\nHive table definition writer\n\noptions:\n" ++
    "  -h, --help            show this help message and exit\n" ++
    "  --config CONFIG       Path to YAML table config\n" ++
    "  --output-dir OUTPUT_DIR\n" ++
    "                        Directory for the generated .hql script\n" ++
    "  --print               Also print the generated statements\n"

structure Output where
  exit : Nat
  shown : Text := ""
  complaints : Text := ""

/-- A line in a colour. -/
def line (style : String) (text : Text) : Text := style ++ text ++ Log.reset ++ "\n"

def failed (message : Text) : Output where
  exit := 1
  complaints :=
    line (Log.bold ++ Log.Color.red.code) "[FAILED] Table definition generation failed." ++
      line Log.Color.red.code message

def done (print : Bool) (script : Script) : Output where
  exit := 0
  shown :=
    (if print then
      script.answer.statements.createTable ++ "\n" ++ script.answer.statements.loadData ++ "\n"
    else "") ++
      line (Log.bold ++ Log.Color.green.code) ("[DONE] Script written to: " ++ script.path)

/-- What is shown of a failure: refusals, and files that are not there. -/
def messageOf? : Failure → Option Text
  | .refused r => some r.message
  | .configAbsent path => (Failure.configAbsent path).message?
  | .file path .absent =>
    some (Text.ofString ("[Errno 2] No such file or directory: " ++ Text.Quoted.encode path))
  | _ => none

variable {m : Type → Type} [Monad m] [FileStore m]

/-- Runs the program. Other failures than those that are shown end it. -/
def run (load : Yaml.Loader) (clock : Moment) (arguments : List String) : Script.Action m Output :=
  match parse arguments with
  | .error .help => return { exit := 0, shown := help }
  | .error stop =>
    return { exit := 2, complaints := usage ++ "hiveddl: error: " ++ stop.message ++ "\n" }
  | .ok (config, settings) =>
    let attempt := do
      return done settings.print (← Script.execute load clock config settings.directory)
    tryCatch attempt fun f =>
      match messageOf? f with
      | some message => return failed message
      | none => throw f

end HiveTable.CommandLine
