import HiveTable.NameMap
import HiveTable.Text.Blank
import HiveTable.Text.Cut
import HiveTable.Text.Percent

/-! Overrides of column types, written as pairs of a column and a type that are joined by an
equals sign and set apart by commas. Both parts may be percent-encoded. -/
namespace HiveTable.Overrides

def part (t : Text) : Text := Text.Percent.decode t.trim

/-- The column and the type of a piece; both must be there. -/
def pair? (piece : Text) : Option (Text × Text) :=
  match Text.cut? (.char '=') piece with
  | some (column, type) =>
    if (part column).isEmpty || (part type).isEmpty then none else some (part column, part type)
  | none => none

def add (m : NameMap Text) (piece : Text) : Except Refusal (NameMap Text) :=
  match pair? piece with
  | none => .error (.malformedOverride piece)
  | some (column, type) =>
    if m.contains column then .error (.repeatedOverride column) else .ok (m.insert column type)

def parse (t : Text) : Except Refusal (NameMap Text) :=
  if t.isBlankText then .ok ∅ else (t.splitOn (.char ',')).foldlM add ∅

/-- No value stands for no overrides. -/
def ofValue : Value → Except Failure (NameMap Text)
  | .null => .ok ∅
  | .text t => (parse t).mapError .refused
  | _ => .error .notText

/-- The text that `parse` reads back. -/
def format (pairs : List (String × String)) : String :=
  String.ofList (List.intercalate [','] (pairs.map fun p =>
    Text.Percent.encode p.1.toList ++ '=' :: Text.Percent.encode p.2.toList))

end HiveTable.Overrides
