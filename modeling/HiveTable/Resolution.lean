import HiveTable.Column
import HiveTable.NameMap

/-! The type of a column in the new table: an override if there is one that can be used, else
the Hive type of the source type. -/
namespace HiveTable

inductive Resolution (α : Type)
  | override (given : α)
  | standard (type : HiveType)

namespace Resolution
variable {α : Type}

def ofColumn (usable : α → Bool) (overrides : NameMap α) (c : Column) :
    Except Failure (Resolution α) := do
  let name ← NameMap.nameOf c.name
  match (overrides.get? name).filter usable with
  | some given => return .override given
  | none =>
    match c.hiveType? with
    | some type => return .standard type
    | none => throw (Refusal.unsupportedType c.name c.type.asValue).failure

def text : Resolution Text → Text
  | .override given => given
  | .standard type => type.text

end Resolution

/-- Every override must be for one of the columns. -/
def checkOverrides {α : Type} (overrides : NameMap α) (names : List Value) :
    Except Failure Unit :=
  match Entries.ofPairs? (names.map fun n => (n, ())) with
  | none => .error .wrongKind
  | some entries => do
    let known ← NameMap.ofEntries entries
    match overrides.names.find? (!known.contains ·) with
    | some name => throw (.refused (.unresolvedOverride name))
    | none => return ()

end HiveTable
