import HiveTable.Proofs.NameMap.Built
import HiveTable.Proofs.Success
import HiveTable.Proofs.Value.Same

/-!
# Updates and copies of a map

A map is known by its names in order and by what stands under them (`ext_names`). The first of two
equal updates settles both, so that the second one changes nothing (`insertAll_insertAll`,
`update_update`).

A map that is made of another reads the other name by name and looks each name up in it: so do
`readOut`, `updateFrom`, `rebuilt` and `equalTo`. They find the entries as they are kept
(`readOut_eq`, `updateFrom_eq`), hence a map that is made anew is the one it was made of, and equal
to it (`made_of_rebuilt`, `equalTo_self`).
-/

namespace HiveTable

namespace Entries
variable {α : Type}

/-- The same keys with values that are the same, in any order. -/
def sameBy (same : α → α → Bool) (xs ys : Entries α) : Bool :=
  xs.length == ys.length && xs.all fun x => ys.any fun y => x.1.same y.1 && same x.2 y.2

theorem sameBy_self {same : α → α → Bool} (hsame : ∀ v, same v v = true) (xs : Entries α) :
    sameBy same xs xs = true := by
  have hfound : ∀ x ∈ xs, xs.any (fun y => x.1.same y.1 && same x.2 y.2) = true := by
    intro x hx
    exact List.any_eq_true.2 ⟨x, hx, by rw [Value.same_self, hsame, Bool.and_self]⟩
  rw [sameBy, List.all_eq_true.2 hfound, beq_self_eq_true, Bool.and_self]

theorem put_of_absent {key : Value} {v : α} {entries : Entries α}
    (h : ∀ e ∈ entries, e.1.same key = false) : put key v entries = entries ++ [(key, v)] := by
  induction entries with
  | nil => rfl
  | cons e rest ih =>
    obtain ⟨hfirst, hrest⟩ := List.forall_mem_cons.1 h
    obtain ⟨k, old⟩ := e
    simp [put, hfirst, ih hrest]

/-- Pairs with distinct keys are the entries that they leave. -/
theorem ofPairs_of_distinct {pairs : List (Value × α)}
    (h : pairs.Pairwise fun a b => a.1.same b.1 = false) : ofPairs pairs = pairs := by
  have hfold : ∀ before : Entries α,
      (before ++ pairs).Pairwise (fun a b => a.1.same b.1 = false) →
        pairs.foldl (fun entries p => put p.1 p.2 entries) before = before ++ pairs := by
    clear h
    induction pairs with
    | nil => exact fun before _ => (List.append_nil before).symm
    | cons p rest ih =>
      intro before hdistinct
      have habsent : ∀ e ∈ before, e.1.same p.1 = false := fun e he =>
        (List.pairwise_append.1 hdistinct).2.2 e he p List.mem_cons_self
      rw [List.foldl_cons, put_of_absent habsent, ih _ (by simpa using hdistinct)]
      simp
  exact hfold [] h

end Entries

namespace NameMap
variable {α : Type}
open Listing

/-! ## Updates -/

theorem toList_eq_filterMap (m : NameMap α) :
    m.toList = m.names.filterMap fun name => (m.get? name).map (name, ·) := by
  have hget : ∀ e ∈ m.toList, some e = (m.get? e.1).map (e.1, ·) := by
    intro e he
    rw [get?_of_mem he]
    rfl
  rw [names_eq, List.filterMap_map]
  calc m.toList = m.toList.filterMap some := List.filterMap_some.symm
    _ = m.toList.filterMap ((fun name => (m.get? name).map (name, ·)) ∘ (·.1)) :=
      List.filterMap_congr hget

/-- A map is known by its names in order and by what stands under them. -/
theorem ext_names {m n : NameMap α} (hnames : m.names = n.names)
    (hget : ∀ name, m.get? name = n.get? name) : m = n := by
  refine ext_toList ?_
  rw [toList_eq_filterMap, toList_eq_filterMap, hnames]
  simp only [hget]

/-- Pairs that were inserted are inserted again to no effect: all their names are there, and under
each stands the last value that the pairs have for it. -/
theorem insertAll_insertAll (m : NameMap α) (pairs : List (Text × α)) :
    (m.insertAll pairs).insertAll pairs = m.insertAll pairs := by
  refine ext_names ?_ fun name => ?_
  · have hnone : (pairs.map (·.1)).filter (!(m.insertAll pairs).contains ·) = [] := by
      refine List.filter_eq_nil_iff.2 fun name hname => ?_
      obtain ⟨p, hp, rfl⟩ := List.mem_map.1 hname
      have hthere : (pairs.any fun q => sameName q.1 p.1) = true :=
        List.any_eq_true.2 ⟨p, hp, sameName_self p.1⟩
      simp [contains_insertAll, hthere]
    rw [names_insertAll (m.insertAll pairs), hnone, List.eraseDupsBy_nil, List.append_nil]
  · rw [get?_insertAll (m.insertAll pairs), get?_insertAll m, ← Option.or_assoc, Option.or_self]

/-- What an update inserts and how it ends do not depend on the map. -/
theorem exists_update (entries : Entries α) :
    ∃ (pairs : List (Text × α)) (result : Except Failure Unit),
      ∀ m : NameMap α, m.update entries = (m.insertAll pairs, result) := by
  induction entries with
  | nil => exact ⟨[], .ok (), fun _ => rfl⟩
  | cons e rest ih =>
    obtain ⟨k, v⟩ := e
    -- A key that is no text stops the update: what is behind it is not looked at.
    cases hk : nameOf k with
    | error f => exact ⟨[], .error f, fun m => by rw [update, hk]; rfl⟩
    | ok name =>
      obtain ⟨pairs, result, hrest⟩ := ih
      exact ⟨(name, v) :: pairs, result, fun m => by rw [update, hk]; exact hrest _⟩

/-- An update again changes nothing and ends as it did before, also where a name stops it. -/
theorem update_update (m : NameMap α) (entries : Entries α) :
    (m.update entries).1.update entries = m.update entries := by
  obtain ⟨pairs, result, hupdate⟩ := exists_update entries
  rw [hupdate m, hupdate (m.insertAll pairs), insertAll_insertAll]

theorem insertAll_toList (m : NameMap α) : m.insertAll m.toList = m := by
  have hbuilt : insertAll ∅ m.toList = m := copy_eq_self m
  have hagain := insertAll_insertAll ∅ m.toList
  rwa [hbuilt] at hagain

/-! ## Reading a map out -/

/-- The entries of a map, read name by name. -/
def readOut (m : NameMap α) : Except Failure (Entries α) :=
  m.names.mapM fun name => return (.text name, ← m.fetch (.text name))

/-- Takes names over from another map, up to the first that is not found there. -/
def takeOver (m other : NameMap α) : List Text → NameMap α × Except Failure Unit
  | [] => (m, .ok ())
  | name :: rest =>
    match other.fetch (.text name) with
    | .ok v => takeOver (m.insert name v) other rest
    | .error f => (m, .error f)

/-- An update with all the names of another map. -/
def updateFrom (m other : NameMap α) : NameMap α × Except Failure Unit :=
  takeOver m other other.names

def ofMap (other : NameMap α) : Except Failure (NameMap α) :=
  let (m, result) := updateFrom ∅ other
  result.map fun _ => m

/-- The ways to make a map anew: a copy, a map of the map, of the mapping of its entries and of the
list of them. -/
def rebuilt (m : NameMap α) : List (Except Failure (NameMap α)) :=
  [.ok m.copy, ofMap m, do ofEntries (Entries.ofPairs (← m.readOut)), do ofEntries (← m.readOut)]

/-- Two maps are compared as the mappings of their entries: the spelling counts, the order does
not. -/
def equalTo (same : α → α → Bool) (m n : NameMap α) : Except Failure Bool := do
  return Entries.sameBy same (Entries.ofPairs (← m.readOut)) (Entries.ofPairs (← n.readOut))

theorem fetch_of_mem {m : NameMap α} {e : Text × α} (h : e ∈ m.toList) :
    m.fetch (.text e.1) = .ok e.2 := by
  rw [fetch_text, lookup?_of_mem m.toList_distinct h]
  rfl

theorem readOut_eq (m : NameMap α) : m.readOut = .ok m.entries := by
  rw [readOut, mapM_eq_ok, names_eq, entries, List.forall₂_map_left_iff,
    List.forall₂_map_right_iff, List.forall₂_same]
  intro e he
  rw [fetch_of_mem he]
  rfl

/-- The names are those of some entries of the other map, all of which are found. -/
theorem takeOver_eq {other : NameMap α} {pairs : List (Text × α)}
    (h : ∀ e ∈ pairs, e ∈ other.toList) (m : NameMap α) :
    m.takeOver other (pairs.map (·.1)) = (m.insertAll pairs, .ok ()) := by
  induction pairs generalizing m with
  | nil => rfl
  | cons e rest ih =>
    obtain ⟨hfirst, hrest⟩ := List.forall_mem_cons.1 h
    rw [List.map_cons, takeOver, fetch_of_mem hfirst]
    exact ih hrest (m.insert e.1 e.2)

theorem updateFrom_eq (m other : NameMap α) :
    m.updateFrom other = (m.insertAll other.toList, .ok ()) := by
  rw [updateFrom, names_eq]
  exact takeOver_eq (fun _ he => he) m

theorem ofPairs_entries (m : NameMap α) : Entries.ofPairs m.entries = m.entries := by
  refine Entries.ofPairs_of_distinct (List.pairwise_map.2 (m.toList_distinct.imp ?_))
  intro a b hab
  have hne : a.1 ≠ b.1 := by
    intro heq
    rw [heq, sameName_self] at hab
    cases hab
  simpa [Value.same] using hne

theorem ofEntries_entries (m : NameMap α) : ofEntries m.entries = .ok m := by
  rw [entries, ofEntries_ofPairs]
  exact congrArg Except.ok (copy_eq_self m)

theorem made_of_rebuilt {m : NameMap α} {made : Except Failure (NameMap α)}
    (h : made ∈ m.rebuilt) : made = .ok m := by
  have hmap : ofMap m = .ok m := by
    rw [ofMap, updateFrom_eq]
    exact congrArg Except.ok (copy_eq_self m)
  have hmapping : (do ofEntries (Entries.ofPairs (← m.readOut))) = .ok m := by
    rw [readOut_eq, ok_bind, ofPairs_entries, ofEntries_entries]
  have hlist : (do ofEntries (← m.readOut)) = .ok m := by
    rw [readOut_eq, ok_bind, ofEntries_entries]
  rw [rebuilt, copy_eq_self, hmap, hmapping, hlist] at h
  simpa using h

theorem equalTo_eq (same : α → α → Bool) (m n : NameMap α) :
    m.equalTo same n = .ok (Entries.sameBy same m.entries n.entries) := by
  rw [equalTo, readOut_eq, readOut_eq, ok_bind, ok_bind, ofPairs_entries, ofPairs_entries]
  rfl

theorem equalTo_self {same : α → α → Bool} (hsame : ∀ v, same v v = true) (m : NameMap α) :
    m.equalTo same m = .ok true := by
  rw [equalTo_eq, Entries.sameBy_self hsame]

/-- For values of documents this is what a map says of the entries of another. -/
theorem equalTo_eq_sameAs (m n : NameMap Value) :
    m.equalTo Value.same n = .ok (m.sameAs n.entries) := by
  rw [equalTo_eq, sameAs, Value.same_mapping]
  rfl

/-! ## The laws of updates and copies -/

/-- An update puts new names behind the old ones, each as it is spelled first, and sets every name
that it has to its last value; the same update again changes nothing. All ways to make a map anew
give the entries of the map, and the two are equal by any comparison for which a value is the same
as itself. An update with a copy changes nothing. -/
theorem updates_and_copies (m : NameMap α) (pairs : List (Text × α)) (same : α → α → Bool)
    (hsame : ∀ v, same v v = true) :
    (∃ u : NameMap α, m.update (pairs.map fun p => (.text p.1, p.2)) = (u, .ok ()) ∧
      u.update (pairs.map fun p => (.text p.1, p.2)) = (u, .ok ()) ∧
      u.names = m.names ++ ((pairs.map (·.1)).filter (!m.contains ·)).eraseDupsBy sameName ∧
      ∀ name, u.get? name =
        ((pairs.reverse.find? fun p => sameName p.1 name).map (·.2)).or (m.get? name)) ∧
    (∀ made ∈ m.rebuilt, ∃ n, made = .ok n ∧ n.toList = m.toList ∧
      n.equalTo same m = .ok true ∧ m.equalTo same n = .ok true) ∧
    m.updateFrom m.copy = (m, .ok ()) := by
  refine ⟨⟨m.insertAll pairs, update_ofPairs m pairs, ?_, names_insertAll m pairs,
    get?_insertAll m pairs⟩, fun made hmade => ?_, ?_⟩
  · have hagain := update_update m (pairs.map fun p => (.text p.1, p.2))
    rwa [update_ofPairs m pairs] at hagain
  · have hequal := equalTo_self hsame m
    exact ⟨m, made_of_rebuilt hmade, rfl, hequal, hequal⟩
  · rw [copy_eq_self, updateFrom_eq, insertAll_toList]

/-- One name of the update is there in other letter case, another with other letters, and a third
comes twice; the value that is kept as `nan` is the same as itself. -/
theorem updates_and_copies_letterCase :
    let m : NameMap Value := ofList [("Id", .int 1), ("Straße", .float .nan)]
    let pairs : List (Text × Value) :=
      [("b", .int 2), ("STRASSE", .null), ("B", .int 3), ("ID", .int 4)]
    (∃ u : NameMap Value, m.update (pairs.map fun p => (.text p.1, p.2)) = (u, .ok ()) ∧
      u.update (pairs.map fun p => (.text p.1, p.2)) = (u, .ok ()) ∧
      u.names = ["Id", "Straße", "b"] ∧ u.get? "b" = some (.int 3)) ∧
    (∀ made ∈ m.rebuilt, ∃ n, made = .ok n ∧ n.names = ["Id", "Straße"] ∧
      m.sameAs n.entries = true) ∧
    m.updateFrom m.copy = (m, .ok ()) := by
  intro m pairs
  obtain ⟨⟨u, hupdate, hagain, hnames, hget⟩, hcopies, hcopy⟩ :=
    updates_and_copies m pairs Value.same Value.same_self
  refine ⟨⟨u, hupdate, hagain, ?_, ?_⟩, fun made hmade => ?_, hcopy⟩
  · rw [hnames]
    decide +kernel
  · rw [hget]
    rfl
  · obtain ⟨n, hmade, hlist, -, hequal⟩ := hcopies made hmade
    refine ⟨n, hmade, ?_, Except.ok.inj ((equalTo_eq_sameAs m n).symm.trans hequal)⟩
    rw [names_eq, hlist]
    decide +kernel

end NameMap

end HiveTable
