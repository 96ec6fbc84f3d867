import HiveTable.Value

/-! Ordered lists of entries with distinct keys. A key that comes again keeps its place and
takes the later value. -/
namespace HiveTable

abbrev Entries (α : Type) := List (Value × α)

namespace Entries
variable {α : Type}

def get? (key : Value) : Entries α → Option α
  | [] => none
  | (k, v) :: rest => if k.same key then some v else get? key rest

def put (key : Value) (value : α) : Entries α → Entries α
  | [] => [(key, value)]
  | (k, v) :: rest => if k.same key then (k, value) :: rest else (k, v) :: put key value rest

/-- The entries that a list of pairs leaves. -/
def ofPairs (pairs : List (Value × α)) : Entries α :=
  pairs.foldl (fun entries p => put p.1 p.2 entries) []

/-- None if a list or a mapping stands as a key. -/
def ofPairs? (pairs : List (Value × α)) : Option (Entries α) :=
  if pairs.all (·.1.isKey) then some (ofPairs pairs) else none

/-- The value under a name. -/
def field? (entries : Entries α) (name : String) : Option α := get? (.text name) entries

end Entries

end HiveTable
