import HiveTable.Value

/-! Collections that hold themselves, taken apart. Inside such a collection only an anchor says
where it stands once more. A part that is taken out has to hold the collection instead of the
anchor, and in there the part has its own anchor. -/
namespace HiveTable.Value

mutual
/-- The collections `around` are reduced to their anchors. -/
def folded (around : List Nat) : Value → Value
  | .anchored a v =>
    if around.contains a then .enclosing a v.isMapping else .anchored a (folded around v)
  | .list items => .list (foldedItems around items)
  | .mapping entries => .mapping (foldedEntries around entries)
  | v => v

def foldedItems (around : List Nat) : List Value → List Value
  | [] => []
  | v :: rest => folded around v :: foldedItems around rest

def foldedEntries (around : List Nat) : List (Value × Value) → List (Value × Value)
  | [] => []
  | (k, v) :: rest => (k, folded around v) :: foldedEntries around rest
end

mutual
/-- The collection `whole` is put where its anchor stands. The collections on the way to that
place are `around` it. -/
def unfolded (anchor : Nat) (whole : Value) (around : List Nat) : Value → Value
  | .enclosing a isMapping =>
    if a = anchor then .anchored a (folded (a :: around) whole) else .enclosing a isMapping
  | .anchored a v => .anchored a (unfolded anchor whole (a :: around) v)
  | .list items => .list (unfoldedItems anchor whole around items)
  | .mapping entries => .mapping (unfoldedEntries anchor whole around entries)
  | v => v

def unfoldedItems (anchor : Nat) (whole : Value) (around : List Nat) : List Value → List Value
  | [] => []
  | v :: rest => unfolded anchor whole around v :: unfoldedItems anchor whole around rest

def unfoldedEntries (anchor : Nat) (whole : Value) (around : List Nat) :
    List (Value × Value) → List (Value × Value)
  | [] => []
  | (k, v) :: rest =>
    (k, unfolded anchor whole around v) :: unfoldedEntries anchor whole around rest
end

/-- A collection whose parts can be taken out. -/
def opened : Value → Value
  | .anchored a whole => unfolded a whole [] whole
  | v => v

@[simp] theorem opened_list (items : List Value) : opened (.list items) = .list items := rfl

@[simp] theorem opened_mapping (entries : List (Value × Value)) :
    opened (.mapping entries) = .mapping entries := rfl

end HiveTable.Value
