import HiveTable.Calendar
import HiveTable.Number.Binary64
import HiveTable.Text

/-! The values of request and configuration documents. A mapping keeps the order of its
entries. A collection may hold itself: then it has an anchor, and inside it a place can say
which of the collections around it stands there. -/
namespace HiveTable
open Number

inductive Value
  | null
  | bool (b : Bool)
  | int (n : Int)
  | float (x : Binary64)
  | text (t : Text)
  | date (d : Date)
  | moment (m : Moment)
  | list (items : List Value)
  | mapping (entries : List (Value × Value))
  /-- A collection that is found again inside itself. -/
  | anchored (anchor : Nat) (collection : Value)
  /-- The collection with an anchor, in which this place is. -/
  | enclosing (anchor : Nat) (isMapping : Bool)

instance : Inhabited Value := ⟨.null⟩

namespace Value

/-- Null, false, zero and everything empty count as not given. What holds itself is not
empty. -/
def isGiven : Value → Bool
  | .null => false
  | .bool b => b
  | .int n => n != 0
  | .float x => !x.isZero
  | .text t => !t.isEmpty
  | .date _ | .moment _ => true
  | .list items => !items.isEmpty
  | .mapping entries => !entries.isEmpty
  | .anchored .. | .enclosing .. => true

theorem isGiven_text {t : Text} : (Value.text t).isGiven = true ↔ t ≠ [] := by
  simp [isGiven]

def isMapping : Value → Bool
  | .mapping _ => true
  | .anchored _ v => v.isMapping
  | .enclosing _ isMapping => isMapping
  | _ => false

def isNull : Value → Bool
  | .null => true
  | _ => false

/-- The name of the kind of a value in messages. -/
def kind : Value → String
  | .null => "NoneType"
  | .bool _ => "bool"
  | .int _ => "int"
  | .float _ => "float"
  | .text _ => "str"
  | .date _ => "date"
  | .moment _ => "datetime"
  | .list _ => "list"
  | .mapping _ => "dict"
  | .anchored _ v => v.kind
  | .enclosing _ isMapping => if isMapping then "dict" else "list"

/-- Lists and mappings cannot be looked up. -/
def isKey : Value → Bool
  | .list _ | .mapping _ | .anchored .. | .enclosing .. => false
  | _ => true

/-- A truth value counts as the number one or zero. -/
def asInt? : Value → Option Int
  | .bool b => some (if b then 1 else 0)
  | .int n => some n
  | _ => none

/-- Where a collection that holds itself is. -/
def anchor? : Value → Option Nat
  | .anchored a _ | .enclosing a _ => some a
  | _ => none

mutual
/-- Equal in a document: numbers by value whatever their kind, mappings in any order. -/
def same : Value → Value → Bool
  | .null, b => match b with | .null => true | _ => false
  | .bool x, b => sameNumber (if x then 1 else 0) b
  | .int x, b => sameNumber x b
  | .float x, b =>
    match b with
    | .float y => x.same y
    | b => b.asInt?.any (Binary64.sameInt · x)
  | .text t, b => match b with | .text u => t == u | _ => false
  | .date d, b => match b with | .date e => d == e | _ => false
  | .moment m, b => match b with | .moment n => m.same n | _ => false
  | .list xs, b => match b with | .list ys => sameItems xs ys | _ => false
  | .mapping xs, b =>
    match b with
    | .mapping ys => xs.length == ys.length && allFound xs ys
    | _ => false
  | .anchored a _, b | .enclosing a _, b => b.anchor? == some a

def sameNumber (x : Int) : Value → Bool
  | .float y => Binary64.sameInt x y
  | b => b.asInt?.any (· == x)

def sameItems : List Value → List Value → Bool
  | [], [] => true
  | x :: xs, y :: ys => same x y && sameItems xs ys
  | _, _ => false

/-- Every entry of the first list has an equal one in the second. -/
def allFound : List (Value × Value) → List (Value × Value) → Bool
  | [], _ => true
  | (k, v) :: rest, ys => ys.any (fun e => same k e.1 && same v e.2) && allFound rest ys
end

end Value

end HiveTable
