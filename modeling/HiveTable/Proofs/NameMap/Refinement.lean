import HiveTable.Proofs.NameMap.Listing

/-!
# Histories of a map of names

A history is a construction and any operations after it. Step by step the map answers as the
list of its entries does (`perform_refines`), hence over whole histories
(`history_refines_listing`).
-/

namespace HiveTable

namespace NameMap
variable {α : Type}

/-- The operations on a map that is there. Names are taken as they come. -/
inductive Operation (α : Type)
  | set (name : Value) (v : α)
  | get (name : Value)
  | getD (name : Value) (otherwise : α)
  | delete (name : Value)
  | contains (name : Value)
  | size
  | names
  | spelling (name : Value)
  | update (entries : Entries α)
  | pop (name : Value) (otherwise : Option α)
  | popFirst
  | setDefault (name : Value) (v : α)
  | clear
  | copy

/-- The name that an operation takes, which must be a text. -/
def Operation.key? : Operation α → Option Value
  | .set name _ | .get name | .getD name _ | .delete name | .spelling name | .pop name _
  | .setDefault name _ => some name
  | _ => none

inductive Reply (α : Type)
  | done
  | value (v : α)
  | truth (b : Bool)
  | count (n : Nat)
  | names (l : List Text)
  | spelling (t : Text)
  | entry (e : Text × α)

/-- What an answer says, and the map after it. -/
abbrev Step (α state : Type) := Except Failure (Reply α) × state

/-- An operation that fails leaves the map as it was. -/
def settle (m : NameMap α) : Except Failure (Reply α × NameMap α) → Step α (NameMap α)
  | .ok (reply, m') => (.ok reply, m')
  | .error f => (.error f, m)

/-- The operation on the map. After a copy it is the copy that goes on. -/
def Operation.perform (m : NameMap α) : Operation α → Step α (NameMap α)
  | .set name v => settle m ((m.assign name v).map (.done, ·))
  | .get name => ((m.fetch name).map .value, m)
  | .getD name otherwise => ((m.fetchD name otherwise).map .value, m)
  | .delete name => settle m ((m.remove name).map (.done, ·))
  | .contains name => (.ok (.truth (m.hasName name)), m)
  | .size => (.ok (.count m.size), m)
  | .names => (.ok (.names m.names), m)
  | .spelling name => ((m.fetchSpelling name).map .spelling, m)
  | .update entries => ((m.update entries).2.map fun _ => .done, (m.update entries).1)
  | .pop name otherwise => settle m ((m.pop name otherwise).map fun p => (.value p.1, p.2))
  | .popFirst => settle m (m.popFirst.map fun p => (.entry p.1, p.2))
  | .setDefault name v => settle m ((m.setDefault name v).map fun p => (.value p.1, p.2))
  | .clear => (.ok .done, m.clear)
  | .copy => (.ok .done, m.copy)

/-- Every reply of a run, with the map after it. -/
def run (m : NameMap α) : List (Operation α) → List (Step α (NameMap α))
  | [] => []
  | op :: rest => op.perform m :: run (op.perform m).2 rest

/-- A map made from entries and keywords, and the run on it. -/
def history (entries keywords : Entries α) (ops : List (Operation α)) :
    Except Failure (NameMap α × List (Step α (NameMap α))) :=
  (ofArguments entries keywords).map fun m => (m, run m ops)

theorem text_or_not (name : Value) : (∃ t, name = .text t) ∨ ∀ t, name ≠ .text t := by
  cases name <;> simp

end NameMap

namespace Listing
variable {α : Type}
open NameMap (Operation Reply Step)

/-- Sets entries one after the other, up to the first name that is no text. -/
def setAll (l : Listing α) : Entries α → Step α (Listing α)
  | [] => (.ok .done, l)
  | (.text name, v) :: rest => setAll (l.set name v) rest
  | (name, _) :: _ => (.error (.nameNotText name.kind), l)

/-- Whatever is asked of a name that is no text fails and changes nothing. -/
def ofName (l : Listing α) (name : Value) (step : Text → Step α (Listing α)) :
    Step α (Listing α) :=
  match name with
  | .text name => step name
  | name => (.error (.nameNotText name.kind), l)

/-- What is asked of an entry that is not there fails and changes nothing. -/
def ofEntry (l : Listing α) (name : Value) (step : Text × α → Step α (Listing α)) :
    Step α (Listing α) :=
  ofName l name fun name =>
    match l.lookup? name with
    | some e => step e
    | none => (.error .nameAbsent, l)

/-- The operations on a list of entries. -/
def perform (l : Listing α) : Operation α → Step α (Listing α)
  | .set name v => ofName l name fun name => (.ok .done, l.set name v)
  | .get name => ofEntry l name fun e => (.ok (.value e.2), l)
  | .getD name otherwise => ofName l name fun name =>
      (.ok (.value (((l.lookup? name).map (·.2)).getD otherwise)), l)
  | .delete name => ofEntry l name fun e => (.ok .done, l.remove e.1)
  | .contains name =>
    match name with
    | .text name => (.ok (.truth (l.lookup? name).isSome), l)
    | _ => (.ok (.truth false), l)
  | .size => (.ok (.count l.length), l)
  | .names => (.ok (.names (l.map (·.1))), l)
  | .spelling name => ofEntry l name fun e => (.ok (.spelling e.1), l)
  | .update entries => l.setAll entries
  | .pop name none => ofEntry l name fun e => (.ok (.value e.2), l.remove e.1)
  | .pop name (some v) => ofName l name fun name =>
      match l.lookup? name with
      | some e => (.ok (.value e.2), l.remove e.1)
      | none => (.ok (.value v), l)
  | .popFirst =>
    match l with
    | [] => (.error .nameAbsent, [])
    | e :: rest => (.ok (.entry e), rest)
  | .setDefault name v => ofName l name fun name =>
      match l.lookup? name with
      | some e => (.ok (.value e.2), l)
      | none => (.ok (.value v), l ++ [(name, v)])
  | .clear => (.ok .done, [])
  | .copy => (.ok .done, l)

def run (l : Listing α) : List (Operation α) → List (Step α (Listing α))
  | [] => []
  | op :: rest => l.perform op :: run (l.perform op).2 rest

/-- Construction sets the entries and then the keywords. It fails where setting fails. -/
def construct (entries keywords : Entries α) : Except Failure (Listing α) := do
  if !keywords.all (NameMap.isKeyword ·.1) then throw .wrongKind
  let given := setAll [] entries
  let whole := setAll given.2 keywords
  given.1.bind fun _ => whole.1.map fun _ => whole.2

theorem perform_not_text {l : Listing α} {op : Operation α} {name : Value}
    (hop : op.key? = some name) (h : ∀ t, name ≠ .text t) :
    perform l op = (.error (.nameNotText name.kind), l) := by
  have hname : ∀ step, ofName l name step = (.error (.nameNotText name.kind), l) := by
    intro step
    cases name <;> first | rfl | exact absurd rfl (h _)
  cases op with
  | pop _ otherwise =>
    cases hop
    cases otherwise <;> exact hname _
  | set | get | getD | delete | spelling | setDefault =>
    cases hop
    exact hname _
  | _ => cases hop

/-- An operation fails for want of a text or of an entry, and then it has changed nothing; an
update alone may have set some entries before. -/
theorem perform_error {l : Listing α} {op : Operation α} {f : Failure}
    (hop : ∀ entries, op ≠ .update entries) (h : (perform l op).1 = .error f) :
    (perform l op).2 = l ∧
      (f = .nameAbsent ∨ ∃ name, op.key? = some name ∧ f = .nameNotText name.kind) := by
  by_cases hkey : ∃ name, op.key? = some name ∧ ∀ t, name ≠ .text t
  · obtain ⟨name, hname, ht⟩ := hkey
    rw [perform_not_text hname ht] at h ⊢
    cases h
    exact ⟨rfl, .inr ⟨name, hname, rfl⟩⟩
  have htext : ∀ name, op.key? = some name → ∃ t, name = .text t := fun name hname =>
    (NameMap.text_or_not name).resolve_right fun ht => hkey ⟨name, hname, ht⟩
  have hentry : ∀ (t : Text) (step : Text × α → Step α (Listing α)),
      (∀ e, (step e).1 ≠ .error f) → (ofEntry l (.text t) step).1 = .error f →
        (ofEntry l (.text t) step).2 = l ∧ f = .nameAbsent := by
    intro t step hstep hf
    simp only [ofEntry, ofName] at hf ⊢
    cases hl : lookup? l t with
    | some e => exact absurd (by simpa [hl] using hf) (hstep e)
    | none =>
      simp only [hl] at hf
      cases hf
      exact ⟨rfl, rfl⟩
  cases op with
  | get name | delete name | spelling name =>
    obtain ⟨t, rfl⟩ := htext name rfl
    obtain ⟨hl, hf⟩ := hentry t _ (fun e he => by cases he) h
    exact ⟨hl, .inl hf⟩
  | pop name otherwise =>
    obtain ⟨t, rfl⟩ := htext name rfl
    cases otherwise with
    | none =>
      obtain ⟨hl, hf⟩ := hentry t _ (fun e he => by cases he) h
      exact ⟨hl, .inl hf⟩
    | some v =>
      simp only [perform, ofName] at h
      cases hl : lookup? l t <;> simp [hl] at h
  | popFirst =>
    cases l with
    | nil =>
      cases h
      exact ⟨rfl, .inl rfl⟩
    | cons e rest => cases h
  | setDefault name v =>
    obtain ⟨t, rfl⟩ := htext name rfl
    simp only [perform, ofName] at h
    cases hl : lookup? l t <;> simp [hl] at h
  | set name | getD name =>
    obtain ⟨t, rfl⟩ := htext name rfl
    cases h
  | contains name => cases name <;> cases h
  | update entries => exact absurd rfl (hop entries)
  | size | names | clear | copy => cases h

end Listing

namespace NameMap
variable {α : Type}

/-! ## Step by step -/

theorem nameOf_not_text {name : Value} (h : ∀ t, name ≠ .text t) :
    nameOf name = .error (.nameNotText name.kind) := by
  cases name <;> first | rfl | exact absurd rfl (h _)

theorem perform_not_text {m : NameMap α} {op : Operation α} {name : Value}
    (hop : op.key? = some name) (h : ∀ t, name ≠ .text t) :
    op.perform m = (.error (.nameNotText name.kind), m) := by
  have hname := nameOf_not_text h
  cases op <;> cases hop <;>
    simp only [Operation.perform, assign, fetch, fetchD, remove, fetchSpelling, pop, setDefault,
      hname] <;> rfl

/-- A step as it shows on the list of entries. -/
def view (s : Step α (NameMap α)) : Step α (Listing α) := (s.1, s.2.toList)

theorem view_update (m : NameMap α) (entries : Entries α) :
    view ((m.update entries).2.map fun _ => .done, (m.update entries).1) =
      Listing.setAll m.toList entries := by
  induction entries generalizing m with
  | nil => rfl
  | cons p rest ih =>
    obtain ⟨name, v⟩ := p
    rcases text_or_not name with ⟨t, rfl⟩ | h
    · have hrest := ih (m.insert t v)
      rw [toList_insert] at hrest
      exact hrest
    · have hset : Listing.setAll m.toList ((name, v) :: rest) =
          (.error (.nameNotText name.kind), m.toList) := by
        cases name <;> first | rfl | exact absurd rfl (h _)
      rw [hset, update, nameOf_not_text h]
      rfl

/-- One operation answers and changes the map as it does on the list of its entries. -/
theorem perform_refines (m : NameMap α) (op : Operation α) :
    view (op.perform m) = Listing.perform m.toList op := by
  by_cases hop : ∃ name, op.key? = some name ∧ ∀ t, name ≠ .text t
  · obtain ⟨name, hkey, h⟩ := hop
    rw [perform_not_text hkey h, Listing.perform_not_text hkey h]
    rfl
  have htext : ∀ name, op.key? = some name → ∃ t, name = .text t := fun name hkey =>
    (text_or_not name).resolve_right fun h => hop ⟨name, hkey, h⟩
  cases op with
  | set name v =>
    obtain ⟨t, rfl⟩ := htext name rfl
    exact congrArg (Prod.mk _) (toList_insert m t v)
  | get name =>
    obtain ⟨t, rfl⟩ := htext name rfl
    simp only [Operation.perform, fetch_text, Listing.perform, Listing.ofEntry, Listing.ofName]
    cases Listing.lookup? m.toList t <;> rfl
  | getD name otherwise =>
    obtain ⟨t, rfl⟩ := htext name rfl
    simp only [Operation.perform, fetchD, nameOf, get?_eq, Listing.perform, Listing.ofName]
    rfl
  | delete name =>
    obtain ⟨t, rfl⟩ := htext name rfl
    simp only [Operation.perform, remove_text, Listing.perform, Listing.ofEntry, Listing.ofName]
    cases hl : Listing.lookup? m.toList t with
    | none => rfl
    | some e => exact congrArg (Prod.mk _) (toList_erase_found hl)
  | contains name =>
    rcases text_or_not name with ⟨t, rfl⟩ | h
    · simp only [Operation.perform, hasName, contains_eq, Listing.perform]
      rfl
    · cases name <;> first | rfl | exact absurd rfl (h _)
  | size => simp [Operation.perform, size_eq, view, Listing.perform]
  | names => simp [Operation.perform, names_eq, view, Listing.perform]
  | spelling name =>
    obtain ⟨t, rfl⟩ := htext name rfl
    simp only [Operation.perform, fetchSpelling_text, Listing.perform, Listing.ofEntry,
      Listing.ofName]
    cases Listing.lookup? m.toList t <;> rfl
  | update entries => exact view_update m entries
  | pop name otherwise =>
    obtain ⟨t, rfl⟩ := htext name rfl
    cases otherwise <;>
      simp only [Operation.perform, pop_text, Listing.perform, Listing.ofEntry, Listing.ofName]
    all_goals
      cases hl : Listing.lookup? m.toList t with
      | none => rfl
      | some e => exact congrArg (Prod.mk _) (toList_erase_found hl)
  | popFirst =>
    rw [Operation.perform, popFirst_eq]
    have hdistinct := m.toList_distinct
    cases hl : m.toList with
    | nil => exact congrArg (Prod.mk _) hl
    | cons e rest =>
      rw [hl] at hdistinct
      have herase : (m.erase e.1).toList = rest := by
        rw [toList_erase, hl, Listing.remove_head hdistinct]
      exact congrArg (Prod.mk _) herase
  | setDefault name v =>
    obtain ⟨t, rfl⟩ := htext name rfl
    simp only [Operation.perform, setDefault_text, Listing.perform, Listing.ofName]
    cases hl : Listing.lookup? m.toList t with
    | some e => rfl
    | none => exact congrArg (Prod.mk _) (toList_insert_of_absent (by rw [contains_eq, hl]; rfl))
  | clear =>
    rw [Operation.perform, clear_eq_empty]
    rfl
  | copy =>
    rw [Operation.perform, copy_eq_self]
    rfl

/-! ## Whole histories -/

theorem run_refines (m : NameMap α) (ops : List (Operation α)) :
    (run m ops).map view = Listing.run m.toList ops := by
  induction ops generalizing m with
  | nil => rfl
  | cons op rest ih =>
    have hstep := perform_refines m op
    have hstate : (op.perform m).2.toList = (Listing.perform m.toList op).2 :=
      congrArg Prod.snd hstep
    simp only [run, Listing.run, List.map_cons, hstep, ih, hstate]

theorem map_ofArguments (entries keywords : Entries α) :
    (ofArguments entries keywords).map toList = Listing.construct entries keywords := by
  unfold ofArguments Listing.construct
  split
  · rfl
  have hgiven := view_update ∅ entries
  rw [toList_empty] at hgiven
  simp only [← hgiven, view]
  cases hu : (update (∅ : NameMap α) entries).2 with
  | error f => simp [ofEntries, hu, Except.map, Except.bind, bind]
  | ok u =>
    have hwhole := view_update (update (∅ : NameMap α) entries).1 keywords
    simp only [← hwhole, view]
    cases hk : ((update (∅ : NameMap α) entries).1.update keywords).2 <;>
      simp [ofEntries, hu, hk, Except.map, Except.bind, bind]

theorem spelling?_of_mem {m : NameMap α} {name : Text} (h : name ∈ m.names) :
    m.spelling? name = some name := by
  rw [names_eq, List.mem_map] at h
  obtain ⟨e, he, rfl⟩ := h
  rw [spelling?_eq, Listing.lookup?_of_mem m.toList_distinct he]
  rfl

theorem names_nodup (m : NameMap α) : m.names.Nodup := by
  rw [names_eq]
  refine List.pairwise_map.2 (m.toList_distinct.imp fun {a b} h hab => ?_)
  rw [hab, Listing.sameName_self] at h
  cases h

theorem perform_error {m : NameMap α} {op : Operation α} {f : Failure}
    (hop : ∀ entries, op ≠ .update entries) (h : (op.perform m).1 = .error f) :
    (op.perform m).2 = m ∧
      (f = .nameAbsent ∨ ∃ name, op.key? = some name ∧ f = .nameNotText name.kind) := by
  have hview := perform_refines m op
  have hresult : (op.perform m).1 = (Listing.perform m.toList op).1 := congrArg Prod.fst hview
  have hstate : (op.perform m).2.toList = (Listing.perform m.toList op).2 :=
    congrArg Prod.snd hview
  obtain ⟨hl, hf⟩ := Listing.perform_error hop (hresult ▸ h)
  exact ⟨ext_toList (hstate.trans hl), hf⟩

/-- Over every history a map answers as the list of its entries, of which no two have one name.
Its names are those of the list, each with its own spelling, and an operation on one name that
fails changes nothing. -/
theorem history_refines_listing (entries keywords : Entries α) (ops : List (Operation α)) :
    (history entries keywords ops).map (fun h => (h.1.toList, h.2.map view)) =
        (Listing.construct entries keywords).map (fun l => (l, Listing.run l ops)) ∧
      ∀ m : NameMap α, Listing.Distinct m.toList ∧
        m.names = m.toList.map (·.1) ∧ m.names.Nodup ∧ m.size = m.toList.length ∧
        (∀ name ∈ m.names, m.spelling? name = some name) ∧
        ∀ (op : Operation α) (f : Failure), (∀ entries, op ≠ .update entries) →
          (op.perform m).1 = .error f → (op.perform m).2 = m ∧
            (f = .nameAbsent ∨ ∃ name, op.key? = some name ∧ f = .nameNotText name.kind) := by
  constructor
  · rw [← map_ofArguments]
    unfold history
    cases ofArguments entries keywords with
    | error f => rfl
    | ok m => exact congrArg (fun steps => Except.ok (m.toList, steps)) (run_refines m ops)
  · intro m
    exact ⟨m.toList_distinct, m.names_eq, m.names_nodup, m.size_eq,
      fun _ h => spelling?_of_mem h, fun _ _ hop h => perform_error hop h⟩

end NameMap

end HiveTable
