import HiveTable.Event
import HiveTable.Text.Case

/-! The log: which records it takes, and their colours on a terminal. -/
namespace HiveTable.Log

inductive Color
  | red | green | yellow | cyan | magenta
  deriving DecidableEq

def Color.code : Color → String
  | .red => "\x1b[31m"
  | .green => "\x1b[32m"
  | .yellow => "\x1b[33m"
  | .cyan => "\x1b[36m"
  | .magenta => "\x1b[35m"

def bold : String := "\x1b[1m"
def reset : String := "\x1b[0m"

/-- Whether the second text occurs in the first. -/
def occursIn (part : Text) : Text → Bool
  | [] => part.isEmpty
  | l :: rest => part.isPrefixOf (l :: rest) || occursIn part rest

/-- The colour of the first word found in the name of a record, in any letter case. -/
def wordColors : List (String × Color) :=
  [("FAILED", .red), ("ERROR", .red), ("IMPROVISED", .yellow), ("WARNING", .yellow),
   ("STARTED", .green), ("GENERATED", .green), ("COMPLETED", .green), ("WRITTEN", .cyan)]

def colorOfName (name : Text) : Color :=
  ((wordColors.find? fun w => occursIn w.1 name.upper).map (·.2)).getD .magenta

/-- A record without a name counts as one with an empty name. -/
def colorOf (name : Value) : Except Failure Color :=
  if !name.isGiven then .ok (colorOfName "")
  else
    match name with
    | .text name => .ok (colorOfName name)
    | _ => .error .notText

def levelNames : List (String × Int) :=
  [("CRITICAL", 50), ("FATAL", 50), ("ERROR", 40), ("WARN", 30), ("WARNING", 30), ("INFO", 20),
   ("DEBUG", 10), ("NOTSET", 0)]

/-- The least level that is logged, by a name in any letter case; unknown names mean `info`. -/
def threshold (setting : Option Text) : Int :=
  let named := setting.bind fun t => t.upper.string?.bind fun name => levelNames.lookup name
  named.getD Level.info.number

/-- Colours are used on a terminal if they are asked for. -/
def isColored (setting : Option Text) (isTerminal : Bool) : Bool :=
  setting == some (Text.ofString "1") && isTerminal

/-- What is logged of a record at a level: nothing below the threshold. -/
def entry? (threshold : Int) (colored : Bool) (name : Value) (payload : Entries Value)
    (level : Value) : Except Failure (Option (Int × String)) := do
  let text ← Event.logged (Event.record name payload)
  let text ←
    if colored then (colorOf name).map fun color => color.code ++ text ++ reset else .ok text
  match level.asInt? with
  | some n => return if threshold ≤ n then some (n, text) else none
  | none => throw .wrongKind

end HiveTable.Log
