import HiveTable.SqlType
import HiveTable.Value.Text
import HiveTable.Value.Entries

/-! Everything that can go wrong, by cause, and the message of each cause. -/
namespace HiveTable
open Number

/-- The numerals of a column description. -/
inductive SizeField
  | precision | scale
  deriving DecidableEq

def SizeField.text : SizeField → String
  | .precision => "precision"
  | .scale => "scale"

/-- What is wrong with the description of a column. -/
inductive ColumnFault
  | emptyName
  | type (fault : TypeFault)
  | size (name : Value) (field : SizeField) (given : Value)
  | noType (name : Value)
  | notDescribed (given : Value)

namespace ColumnFault

/-- What is said of a number with too many digits. -/
def limitMessage (detail : String) : String :=
  "Exceeds the limit (" ++ natText maxNumeralDigits ++
    " digits) for integer string conversion" ++ detail ++
    "; use sys.set_int_max_str_digits() to increase the limit"

def numeralMessage : NumeralFault → String
  | .unreadable numeral =>
    "invalid literal for int() with base 10: " ++
      String.ofList ((Text.Quoted.encode numeral).toList.take 200)
  | .tooLong n => limitMessage (": value has " ++ natText n ++ " digits")

/-- The values that the text of a fault shows. -/
def shown : ColumnFault → List Value
  | .type (.unknown v) => [v]
  | .size name _ v => [name, v]
  | .noType name => [name]
  | .notDescribed v => [v]
  | .emptyName | .type (.numeral _) => []

def text : ColumnFault → Text
  | .emptyName => "Column name must not be empty"
  | .type (.unknown v) => "Invalid SQL type: " ++ v.quoted
  | .type (.numeral fault) => numeralMessage fault
  | .size name field v =>
    "Column " ++ name.display ++ " " ++ field.text ++ " must be a non-negative integer, got " ++
      v.quoted
  | .noType name => "Column " ++ name.display ++ " has no SQL type"
  | .notDescribed v => "Column spec must be a mapping with a name: " ++ v.quoted

/-- A value that cannot be shown makes a fault of its own. -/
def message (fault : ColumnFault) : Text :=
  if fault.shown.any Value.hasLongNumber then limitMessage "" else fault.text

end ColumnFault

/-- The fields of a time of day. -/
inductive TimeField
  | hour | minute | second | nanos | fractionDigits
  deriving DecidableEq

namespace TimeField

def text : TimeField → String
  | .hour => "hour"
  | .minute => "minute"
  | .second => "second"
  | .nanos => "nanos"
  | .fractionDigits => "fraction_digits"

/-- The largest value; the least is zero. -/
def limit : TimeField → Nat
  | .hour => 23
  | .minute | .second => 59
  | .nanos => 999999999
  | .fractionDigits => 9

end TimeField

/-- Why something is no time of day. -/
inductive TimeFault
  | notText (kind : String)
  | malformed (given : Text)
  | notInteger (field : TimeField) (given : Value)
  | outOfRange (field : TimeField) (given : Int)

def TimeFault.message : TimeFault → String
  | .notText kind => "Time value must be text, got " ++ kind
  | .malformed t => "Time format must be hh:mm:ss[.fffffffff], got " ++ Text.Quoted.encode t
  | .notInteger field v => field.text ++ " must be an integer, got " ++ v.quoted
  | .outOfRange field n =>
    field.text ++ " must be between 0 and " ++ natText field.limit ++ ", got " ++ intText n

/-- Why something is no delimiter. -/
inductive DelimiterFault
  | notOneCharacter (given : Text)
  | notCode (given : Value)
  | outOfRange (code : Int)

def DelimiterFault.message : DelimiterFault → String
  | .notOneCharacter t => "Delimiter must be a single character, got " ++ Text.Quoted.encode t
  | .notCode v => "Invalid delimiter: " ++ v.quoted
  | .outOfRange n => "Character " ++ intText n ++ " is an out-of-range delimiter"

/-- Why a request is refused. -/
inductive Refusal
  | noSchema
  | malformedOverride (piece : Text)
  | repeatedOverride (column : Text)
  | unresolvedOverride (column : Text)
  | halfPartition
  | blankPartitionKey
  | partitionIsColumn (column : Value)
  | unknownOptions (names : List Text)
  | emptyCodec
  | unknownCodec (codec : Text)
  | requestNotMapping
  | unknownRequestKeys (keys : List Text)
  | noInputTable
  | columnsNotList
  | column (fault : ColumnFault)
  | unsupportedType (column type : Value)
  | delimiter (fault : DelimiterFault)
  | time (fault : TimeFault)
  | notYaml (path : String)
  | configNotMapping (path : String)

namespace Refusal

/-- The class under which a refusal is reported. -/
def label : Refusal → String
  | .noSchema => "HiveDDLError"
  | .unresolvedOverride _ => "UnresolvedOverrideError"
  | .partitionIsColumn _ => "InvalidPartitionError"
  | .unsupportedType .. => "UnsupportedTypeError"
  | .delimiter _ => "InvalidEscapeCodeError"
  | .time _ => "MalformedTimeError"
  | _ => "ConfigurationError"

def message : Refusal → Text
  | .noSchema =>
    "A schema source and input table are required when column types are not set explicitly"
  | .malformedOverride piece => "Malformed column type mapping: " ++ Text.Quoted.encode piece
  | .repeatedOverride name => "Column " ++ name ++ " is mapped more than once"
  | .unresolvedOverride name =>
    "No column by the name " ++ name ++ " found while importing data"
  | .halfPartition => "partition_key and partition_value must be given together"
  | .blankPartitionKey => "partition_key must not be empty"
  | .partitionIsColumn name =>
    "Partition key " ++ name.display ++ " cannot be a column to import."
  | .unknownOptions names => "Unknown options: " ++ Text.listed names
  | .emptyCodec => "Codec name must not be empty"
  | .unknownCodec codec => "Unknown compression codec: " ++ codec
  | .requestNotMapping => "Payload must be a mapping"
  | .unknownRequestKeys keys => "Unknown payload keys: " ++ Text.listed keys
  | .noInputTable => "input_table is required"
  | .columnsNotList => "columns must be a list"
  | .column fault => fault.message
  | .unsupportedType name type =>
    "Hive does not support the SQL type for column " ++ name.display ++
      " (sql type: " ++ type.display ++ ")"
  | .delimiter fault => fault.message
  | .time fault => fault.message
  | .notYaml path => "Invalid YAML in " ++ path
  | .configNotMapping path => "Config must be a mapping: " ++ path

end Refusal

/-- Why a file or directory cannot be used. -/
inductive FileFault
  | absent
  | exists
  | isDirectory
  | notDirectory
  | nameTooLong
  /-- Holds what no name can. -/
  | badName
  deriving DecidableEq

/-- Refusals are reported to whoever asks. The other failures are faults of the asking. -/
inductive Failure
  | refused (r : Refusal)
  | column (fault : ColumnFault)
  | nameNotText (kind : String)
  | nameAbsent
  | noOutputTable
  | unknownTable (table : Value)
  | configAbsent (path : String)
  | file (path : Text) (fault : FileFault)
  /-- A value that is no text stands where only a text is of use. -/
  | notText
  /-- A value, or a number of values, of a kind that is of no use here. -/
  | wrongKind
  /-- A value of the right kind that nothing can be made of. -/
  | unusable
  /-- A number beyond those that can be passed on. -/
  | tooLarge
  /-- A text without bytes goes to a file, or names one. -/
  | unencodable
  /-- Collections are nested too deeply. -/
  | tooDeep

namespace ColumnFault

/-- Whether a fault is about a number as such. -/
def isNumeral : ColumnFault → Bool
  | .type (.numeral _) => true
  | fault => fault.shown.any Value.hasLongNumber

end ColumnFault

namespace Refusal

/-- The values that the message shows and that may hold any number. -/
def shown : Refusal → List Value
  | .unsupportedType name type => [name, type]
  | .delimiter (.notCode v) => [v]
  | .delimiter (.outOfRange n) => [.int n]
  | .time (.notInteger _ v) => [v]
  | .time (.outOfRange _ n) => [.int n]
  | _ => []

/-- A refusal that cannot be put in words is another failure. -/
def failure (r : Refusal) : Failure :=
  if r.shown.any Value.hasLongNumber then .unusable else .refused r

end Refusal

/-- The message of a failure, if it has one of its own. A bad number has none until a refusal
reports it. -/
def Failure.message? : Failure → Option Text
  | .refused r => some r.message
  | .column fault => if fault.isNumeral then none else some fault.message
  | .nameNotText kind => some ("Column names must be strings, got " ++ kind)
  | .noOutputTable => some "output_table must not be empty"
  | .unknownTable table => some (Text.Quoted.encode ("Unknown table: " ++ table.display))
  | .configAbsent path => some ("Config file not found: " ++ path)
  | _ => none

end HiveTable
