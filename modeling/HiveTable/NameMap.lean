import HiveTable.Text.Case
import HiveTable.Failure

/-! Maps from column names that ignore letter case. A name keeps the spelling and the place
with which it first came. -/
namespace HiveTable

structure NameMap.Entry (α : Type) where
  key : Text
  name : Text
  value : α

/-- Entries are kept under the folded name, each at most once. -/
structure NameMap (α : Type) where
  store : List (NameMap.Entry α)
  keyed : ∀ e ∈ store, e.key = Text.fold e.name
  distinct : (store.map (·.key)).Nodup

namespace NameMap
variable {α β : Type}

def put (key name : Text) (value : α) : List (Entry α) → List (Entry α)
  | [] => [⟨key, name, value⟩]
  | e :: rest =>
    if e.key = key then { e with value := value } :: rest else e :: put key name value rest

theorem keyed_put (name : Text) (value : α) (store : List (Entry α))
    (h : ∀ e ∈ store, e.key = Text.fold e.name) :
    ∀ e ∈ put (Text.fold name) name value store, e.key = Text.fold e.name := by
  induction store with
  | nil => simp [put]
  | cons e rest ih =>
    simp only [List.forall_mem_cons] at h
    by_cases hk : e.key = Text.fold name
    · simpa [put, hk] using And.intro (hk ▸ h.1) h.2
    · simpa [put, hk] using And.intro h.1 (ih h.2)

theorem keys_put (key name : Text) (value : α) (store : List (Entry α)) :
    (put key name value store).map (·.key) =
      if key ∈ store.map (·.key) then store.map (·.key) else store.map (·.key) ++ [key] := by
  induction store with
  | nil => simp [put]
  | cons e rest ih =>
    by_cases hk : e.key = key
    · simp [put, hk]
    · have hk' : key ≠ e.key := fun h => hk h.symm
      simp only [put, hk, if_false, List.map_cons, ih, List.mem_cons, hk', false_or]
      split <;> simp

theorem distinct_put (key name : Text) (value : α) (store : List (Entry α))
    (h : (store.map (·.key)).Nodup) : ((put key name value store).map (·.key)).Nodup := by
  rw [keys_put]
  split
  · exact h
  · rename_i hn
    refine List.nodup_append.2 ⟨h, by simp, fun a ha b hb hab => hn ?_⟩
    simpa [← List.mem_singleton.1 hb, hab] using ha

def empty : NameMap α := ⟨[], by simp, by simp⟩

instance : EmptyCollection (NameMap α) := ⟨empty⟩

def insert (m : NameMap α) (name : Text) (value : α) : NameMap α :=
  ⟨put (Text.fold name) name value m.store, keyed_put name value m.store m.keyed,
   distinct_put (Text.fold name) name value m.store m.distinct⟩

def erase (m : NameMap α) (name : Text) : NameMap α :=
  ⟨m.store.filter (·.key != Text.fold name), fun e h => m.keyed e (List.mem_filter.1 h).1,
   List.Pairwise.sublist (List.filter_sublist.map _) m.distinct⟩

def entryAt? (key : Text) (store : List (Entry α)) : Option (Entry α) :=
  store.find? (·.key == key)

def entry? (m : NameMap α) (name : Text) : Option (Entry α) :=
  entryAt? (Text.fold name) m.store

def get? (m : NameMap α) (name : Text) : Option α := (m.entry? name).map (·.value)

/-- The spelling with which a name first came. -/
def spelling? (m : NameMap α) (name : Text) : Option Text := (m.entry? name).map (·.name)

def contains (m : NameMap α) (name : Text) : Bool := (m.entry? name).isSome

/-- The entries in order, with their spelling. -/
def toList (m : NameMap α) : List (Text × α) := m.store.map fun e => (e.name, e.value)

def names (m : NameMap α) : List Text := m.store.map (·.name)

def size (m : NameMap α) : Nat := m.store.length

def insertAll (m : NameMap α) (pairs : List (Text × α)) : NameMap α :=
  pairs.foldl (fun m p => m.insert p.1 p.2) m

def ofList (pairs : List (Text × α)) : NameMap α := insertAll ∅ pairs

/-- A map built anew from the entries of another. -/
def copy (m : NameMap α) : NameMap α := ofList m.toList

/-- Only a text can be a column name. -/
def nameOf : Value → Except Failure Text
  | .text name => .ok name
  | v => .error (.nameNotText v.kind)

/-- Inserts entry by entry up to the first name that is no text. -/
def update (m : NameMap α) : Entries α → NameMap α × Except Failure Unit
  | [] => (m, .ok ())
  | (k, v) :: rest =>
    match nameOf k with
    | .ok name => update (m.insert name v) rest
    | .error f => (m, .error f)

def ofEntries (entries : Entries α) : Except Failure (NameMap α) :=
  let (m, result) := update ∅ entries
  result.map fun _ => m

/-- Entries may come as keywords. These two are taken by the map itself and by its entries. -/
def takenKeywords : List Text := ["self", "data"]

def isKeyword : Value → Bool
  | .text name => !takenKeywords.contains name
  | _ => false

/-- A map of entries and of keywords behind them. The keywords are looked at first. -/
def ofArguments (entries keywords : Entries α) : Except Failure (NameMap α) := do
  if !keywords.all (isKeyword ·.1) then throw .wrongKind
  let (m, result) := (← ofEntries entries).update keywords
  result.map fun _ => m

/-! ## Names as they come

A name that is no text fails, and so does one that is not in the map where it must be. -/

def fetch (m : NameMap α) (name : Value) : Except Failure α := do
  match m.get? (← nameOf name) with
  | some v => .ok v
  | none => .error .nameAbsent

/-- A value that is no text is never in the map. -/
def hasName (m : NameMap α) : Value → Bool
  | .text name => m.contains name
  | _ => false

def fetchD (m : NameMap α) (name : Value) (otherwise : α) : Except Failure α := do
  return (m.get? (← nameOf name)).getD otherwise

def fetchSpelling (m : NameMap α) (name : Value) : Except Failure Text := do
  match m.spelling? (← nameOf name) with
  | some s => .ok s
  | none => .error .nameAbsent

def assign (m : NameMap α) (name : Value) (v : α) : Except Failure (NameMap α) := do
  return m.insert (← nameOf name) v

def remove (m : NameMap α) (name : Value) : Except Failure (NameMap α) := do
  let name ← nameOf name
  if m.contains name then .ok (m.erase name) else .error .nameAbsent

/-- Takes the value of a name out of the map, or another value if the name is absent. -/
def pop (m : NameMap α) (name : Value) (otherwise : Option α) : Except Failure (α × NameMap α) := do
  let name ← nameOf name
  match m.get? name, otherwise with
  | some v, _ => .ok (v, m.erase name)
  | none, some v => .ok (v, m)
  | none, none => .error .nameAbsent

/-- Takes out the first entry. -/
def popFirst (m : NameMap α) : Except Failure ((Text × α) × NameMap α) :=
  match m.names with
  | [] => .error .nameAbsent
  | name :: _ => do
    let v ← m.fetch (.text name)
    let rest ← m.remove (.text name)
    return ((name, v), rest)

theorem size_erase_lt {m : NameMap α} {name : Text} (h : m.contains name = true) :
    (m.erase name).size < m.size := by
  obtain ⟨e, he, hk⟩ := List.find?_isSome.1 h
  exact List.length_filter_lt_length_iff_exists.2 ⟨e, he, by simpa using hk⟩

theorem size_popFirst_lt {m rest : NameMap α} {e : Text × α} (h : m.popFirst = .ok (e, rest)) :
    rest.size < m.size := by
  unfold popFirst at h
  split at h
  · cases h
  · rename_i name _ _
    cases hf : m.fetch (.text name) with
    | error f => simp [hf, bind, Except.bind] at h
    | ok v =>
      by_cases hc : m.contains name = true
      · simp [hf, remove, nameOf, hc, bind, Except.bind, pure, Except.pure] at h
        exact h.2 ▸ size_erase_lt hc
      · simp [hf, remove, nameOf, hc, bind, Except.bind] at h

/-- Takes out the first entry until none is left. -/
def clear (m : NameMap α) : NameMap α :=
  match _h : m.popFirst with
  | .ok (_, rest) => clear rest
  | .error _ => m
termination_by m.size
decreasing_by exact size_popFirst_lt _h

/-- The value of a name, which is put in if the name is absent. -/
def setDefault (m : NameMap α) (name : Value) (v : α) : Except Failure (α × NameMap α) := do
  let name ← nameOf name
  match m.get? name with
  | some old => .ok (old, m)
  | none => .ok (v, m.insert name v)

/-- The entries as those of a mapping. -/
def entries (m : NameMap α) : Entries α := m.toList.map fun e => (.text e.1, e.2)

/-- The same spellings with equal values, in any order. -/
def sameAs (m : NameMap Value) (entries : Entries Value) : Bool :=
  Value.same (.mapping m.entries) (.mapping entries)

def quoted (m : NameMap Value) : String :=
  "ColumnNameMap(" ++ (Value.mapping m.entries).quoted ++ ")"

end NameMap

end HiveTable
