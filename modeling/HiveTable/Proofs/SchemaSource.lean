import HiveTable.Proofs.NameMap.Built
import HiveTable.Proofs.Value.LongNumber
import HiveTable.Proofs.Value.Same
import HiveTable.SchemaSource

/-!
# Catalogs

A catalog that is made of descriptions has one column for each, of the description alone
(`ofSpecs_ok`). Asked for its own table it answers with all columns, and under the name of each it
has a column of that name (`infoOf_table`): of several columns with one name only one is found.
-/

namespace HiveTable

namespace Catalog

/-- The name in the description of a column. -/
def specName (spec : Value) : Value :=
  match spec.opened with
  | .mapping fields => (Entries.field? fields "name").getD .null
  | _ => .null

/-- The column that is described by one description alone. -/
theorem columnOf_ok {spec : Value} {c : Column} (h : columnOf spec = .ok c) :
    c.name.isGiven = true ∧ c.name = specName spec ∧
      Column.ofInfo (specName spec) (.value spec) = .ok c := by
  have hinfo : Column.ofInfo (specName spec) (.value spec) = .ok c ∧
      (specName spec).isGiven = true := by
    unfold columnOf at h
    unfold specName Column.ofInfo
    dsimp only
    split at h
    · rename_i fields hopened
      rw [hopened]
      dsimp only at h ⊢
      split at h
      · rename_i hgiven
        exact ⟨mapError_eq_ok.1 h, hgiven⟩
      · cases h
    · cases h
  have hname : c.name = specName spec := (Column.ofInfo_value hinfo.1).1
  exact ⟨hname ▸ hinfo.2, hname, hinfo.1⟩

theorem ofSpecs_ok {table : Value} {specs : List Value} {catalog : Catalog}
    (h : ofSpecs table (.list specs) = .ok catalog) :
    catalog.table = table ∧ table.isKey = true ∧ specs.mapM columnOf = .ok catalog.columns := by
  unfold ofSpecs at h
  obtain ⟨items, hitems, h⟩ := bind_eq_ok.1 h
  obtain rfl := Except.ok.inj hitems
  obtain ⟨columns, hcolumns, h⟩ := bind_eq_ok.1 h
  split at h
  · rename_i hkey
    obtain rfl := Except.ok.inj h
    exact ⟨rfl, hkey, hcolumns⟩
  · cases h

variable {catalog : Catalog}

theorem columnsOf_table (h : catalog.table.isKey = true) :
    catalog.columnsOf catalog.table = .ok catalog.columns := by
  unfold columnsOf
  rw [h, Value.same_self]
  rfl

/-- The columns of a catalog by name. Under texts each is found again by its name, or another of
this name in its place. -/
theorem infoOf_table (h : catalog.table.isKey = true) {pairs : List (Text × Column)}
    (hpairs : catalog.columns.map (fun c => (c.name, c)) = pairs.map fun p => (.text p.1, p.2)) :
    ∃ m, catalog.infoOf catalog.table = .ok m ∧
      (∀ p ∈ pairs, ∃ q ∈ pairs, Listing.sameName q.1 p.1 = true ∧ m.get? p.1 = some q.2) ∧
      ∀ e ∈ m.toList, ∃ p ∈ pairs, p.2 = e.2 := by
  obtain ⟨kept, heq, hmem, hkeys⟩ := Entries.ofPairs_text pairs
  have hall : (pairs.map fun p => (Value.text p.1, p.2)).all (·.1.isKey) = true := by
    simp [Value.isKey]
  refine ⟨NameMap.ofList kept, ?_, fun p hp => ?_, fun e he => ?_⟩
  · unfold infoOf
    rw [columnsOf_table h, ok_bind, hpairs, Entries.ofPairs?, if_pos hall, heq]
    exact NameMap.ofEntries_ofPairs kept
  · have hfound : (kept.reverse.find? fun q => Listing.sameName q.1 p.1).isSome = true := by
      obtain ⟨q, hq, hqp⟩ := List.mem_map.1 ((hkeys p.1).2 (List.mem_map_of_mem hp))
      exact List.find?_isSome.2
        ⟨q, List.mem_reverse.2 hq, by rw [hqp]; exact Listing.sameName_self p.1⟩
    obtain ⟨q, hq⟩ := Option.isSome_iff_exists.1 hfound
    have hsame : Listing.sameName q.1 p.1 = true := by simpa using List.find?_some hq
    refine ⟨q, hmem q (List.mem_reverse.1 (List.mem_of_find?_eq_some hq)), hsame, ?_⟩
    rw [NameMap.get?_ofList, hq]
    rfl
  · obtain ⟨p, hp, hvalue⟩ := NameMap.exists_mem_of_mem_toList he
    exact ⟨p, hmem p hp, hvalue⟩

theorem columnNames_table (h : catalog.table.isKey = true) :
    catalog.source.columnNames catalog.table = .ok (catalog.columns.map (·.name)) := by
  show (catalog.columnsOf catalog.table).map _ = _
  rw [columnsOf_table h]
  rfl

theorem columnInfo_table {m : NameMap Column} (h : catalog.infoOf catalog.table = .ok m) :
    catalog.source.columnInfo catalog.table = .ok ((m.toList.map fun p =>
      (p.1, ColumnInfo.column p.2)).map fun p => (.text p.1, p.2)) := by
  show (catalog.infoOf catalog.table).map _ = _
  rw [h, List.map_map]
  show Except.ok ((m.toList.map _).map _) = _
  rw [List.map_map]
  rfl

end Catalog

end HiveTable
