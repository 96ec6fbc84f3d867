import Mathlib.Data.List.Basic
import HiveTable.NameMap

/-!
# A map of names as the list of its entries

The plain view of a `NameMap` is the list of its spellings and values, in which names that
differ only in letter case are one name. `set` and `remove` say on such lists what insertion
and erasure do, and `toList` carries each operation of the map to the one on lists:

* `toList_insert`, `toList_erase`, `map_entry?`: insertion, erasure and look-up;
* `popFirst_eq`, `clear_eq_empty`, `copy_eq_self`: the operations that go through the others.
-/

namespace HiveTable

/-- Spellings with values, in order. -/
abbrev Listing (α : Type) := List (Text × α)

namespace Listing
variable {α : Type}

/-- One name but for letter case. -/
def sameName (a b : Text) : Bool := Text.fold a == Text.fold b

/-- No name is there twice. -/
def Distinct (l : Listing α) : Prop := l.Pairwise fun a b => sameName a.1 b.1 = false

def lookup? (l : Listing α) (name : Text) : Option (Text × α) :=
  List.find? (fun e => sameName e.1 name) l

/-- A name that is there keeps its place and its spelling; any other name goes to the end. -/
def set (l : Listing α) (name : Text) (v : α) : Listing α :=
  if (lookup? l name).isSome then l.map fun e => if sameName e.1 name then (e.1, v) else e
  else l ++ [(name, v)]

def remove (l : Listing α) (name : Text) : Listing α := l.filter fun e => !sameName e.1 name

theorem sameName_self (a : Text) : sameName a a = true := by simp [sameName]

theorem sameName_comm (a b : Text) : sameName a b = sameName b a := by
  simp only [sameName]
  exact Bool.beq_comm

theorem lookup?_eq_none_iff {l : Listing α} {name : Text} :
    lookup? l name = none ↔ ∀ e ∈ l, sameName e.1 name = false := by
  simp [lookup?]

theorem lookup?_of_mem {e : Text × α} {l : Listing α} (h : Distinct l) (he : e ∈ l) :
    lookup? l e.1 = some e := by
  induction l with
  | nil => cases he
  | cons a rest ih =>
    obtain ⟨ha, hrest⟩ := List.pairwise_cons.1 h
    rcases List.mem_cons.1 he with rfl | hmem
    · simp [lookup?, sameName_self]
    · simpa [lookup?, ha e hmem] using ih hrest hmem

theorem set_cons_of_same {e : Text × α} {l : Listing α} {name : Text} {v : α}
    (h : sameName e.1 name = true) (hl : ∀ a ∈ l, sameName a.1 name = false) :
    set (e :: l) name v = (e.1, v) :: l := by
  have hmap : (l.map fun a => if sameName a.1 name then (a.1, v) else a) = l := by
    conv_rhs => rw [← List.map_id l]
    exact List.map_congr_left fun a ha => by simp [hl a ha]
  simp [set, lookup?, h, hmap]

theorem set_cons_of_other {e : Text × α} {l : Listing α} {name : Text} {v : α}
    (h : sameName e.1 name = false) : set (e :: l) name v = e :: set l name v := by
  have hlookup : lookup? (e :: l) name = lookup? l name := by simp [lookup?, h]
  unfold set
  rw [hlookup]
  split <;> simp [h]

theorem remove_of_absent {l : Listing α} {name : Text}
    (h : ∀ e ∈ l, sameName e.1 name = false) : remove l name = l := by
  refine List.filter_eq_self.2 fun e he => ?_
  simp [h e he]

/-- Once its first name is removed, a list of distinct names is its tail. -/
theorem remove_head {e : Text × α} {rest : Listing α} (h : Distinct (e :: rest)) :
    remove (e :: rest) e.1 = rest := by
  have hrest : ∀ a ∈ rest, sameName a.1 e.1 = false := by
    intro a ha
    rw [sameName_comm]
    exact (List.pairwise_cons.1 h).1 a ha
  have htail := remove_of_absent hrest
  simpa [remove, sameName_self] using htail

end Listing

namespace NameMap
variable {α : Type}

/-! ## The view of a map -/

theorem toList_empty : (∅ : NameMap α).toList = [] := rfl

theorem names_eq (m : NameMap α) : m.names = m.toList.map (·.1) := by
  simp [names, toList, Function.comp_def]

theorem size_eq (m : NameMap α) : m.size = m.toList.length := by simp [size, toList]

theorem toList_distinct (m : NameMap α) : Listing.Distinct m.toList := by
  have hkeys : m.store.Pairwise fun a b => a.key ≠ b.key := List.pairwise_map.1 m.distinct
  refine List.pairwise_map.2 (hkeys.imp_of_mem fun {a b} ha hb hab => ?_)
  simpa [Listing.sameName, ← m.keyed a ha, ← m.keyed b hb] using hab

theorem map_entryAt? (name : Text) (store : List (Entry α))
    (h : ∀ e ∈ store, e.key = Text.fold e.name) :
    (entryAt? (Text.fold name) store).map (fun e => (e.name, e.value)) =
      Listing.lookup? (store.map fun e => (e.name, e.value)) name := by
  induction store with
  | nil => rfl
  | cons e rest ih =>
    simp only [List.forall_mem_cons] at h
    by_cases hk : Text.fold e.name = Text.fold name
    · simp [entryAt?, Listing.lookup?, Listing.sameName, h.1, hk]
    · simpa [entryAt?, Listing.lookup?, Listing.sameName, h.1, hk] using ih h.2

/-- Look-up finds the entry with the name in the list. -/
theorem map_entry? (m : NameMap α) (name : Text) :
    (m.entry? name).map (fun e => (e.name, e.value)) = Listing.lookup? m.toList name :=
  map_entryAt? name m.store m.keyed

theorem get?_eq (m : NameMap α) (name : Text) :
    m.get? name = (Listing.lookup? m.toList name).map (·.2) := by
  rw [← map_entry?, Option.map_map]
  rfl

theorem exists_mem_of_get? {m : NameMap α} {name : Text} {v : α} (h : m.get? name = some v) :
    ∃ e ∈ m.toList, e.2 = v := by
  rw [get?_eq] at h
  obtain ⟨e, he, rfl⟩ := Option.map_eq_some_iff.1 h
  exact ⟨e, List.mem_of_find?_eq_some he, rfl⟩

theorem spelling?_eq (m : NameMap α) (name : Text) :
    m.spelling? name = (Listing.lookup? m.toList name).map (·.1) := by
  rw [← map_entry?, Option.map_map]
  rfl

theorem contains_eq (m : NameMap α) (name : Text) :
    m.contains name = (Listing.lookup? m.toList name).isSome := by
  rw [← map_entry?, Option.isSome_map]
  rfl

theorem contains_eq_false_iff {m : NameMap α} {name : Text} :
    m.contains name = false ↔ ∀ e ∈ m.toList, Listing.sameName e.1 name = false := by
  rw [contains_eq, Option.isSome_eq_false_iff, Option.isNone_iff_eq_none,
    Listing.lookup?_eq_none_iff]

theorem contains_iff_mem_keys {m : NameMap α} {name : Text} :
    m.contains name = true ↔ Text.fold name ∈ m.store.map (·.key) := by
  simp [contains, entry?, entryAt?]

theorem contains_insert (m : NameMap α) (name x : Text) (v : α) :
    (m.insert name v).contains x = (Listing.sameName name x || m.contains x) := by
  rw [Bool.eq_iff_iff, Bool.or_eq_true, contains_iff_mem_keys, contains_iff_mem_keys]
  have hkeys := keys_put (Text.fold name) name v m.store
  simp only [insert, hkeys, Listing.sameName, beq_iff_eq]
  split
  · rename_i hmem
    exact ⟨.inr, fun h => h.elim (fun hfold => hfold ▸ hmem) id⟩
  · rw [List.mem_append, List.mem_singleton, or_comm, eq_comm]

theorem toList_put (name : Text) (v : α) (store : List (Entry α))
    (h : ∀ e ∈ store, e.key = Text.fold e.name) (hd : (store.map (·.key)).Nodup) :
    (put (Text.fold name) name v store).map (fun e => (e.name, e.value)) =
      Listing.set (store.map fun e => (e.name, e.value)) name v := by
  induction store with
  | nil => rfl
  | cons e rest ih =>
    simp only [List.forall_mem_cons] at h
    simp only [List.map_cons, List.nodup_cons] at hd
    by_cases hk : Text.fold e.name = Text.fold name
    · have hsame : Listing.sameName e.name name = true := by simpa [Listing.sameName] using hk
      have hrest : ∀ p ∈ rest.map fun e => (e.name, e.value),
          Listing.sameName p.1 name = false := by
        intro p hp
        obtain ⟨a, ha, rfl⟩ := List.mem_map.1 hp
        have hne : a.key ≠ e.key := fun hak => hd.1 (hak ▸ List.mem_map_of_mem ha)
        simpa [Listing.sameName, ← h.2 a ha, ← hk, ← h.1] using hne
      rw [List.map_cons, Listing.set_cons_of_same hsame hrest]
      simp [put, h.1, hk]
    · have hother : Listing.sameName e.name name = false := by simpa [Listing.sameName] using hk
      rw [List.map_cons, Listing.set_cons_of_other hother, ← ih h.2 hd.2]
      simp [put, h.1, hk]

theorem toList_insert (m : NameMap α) (name : Text) (v : α) :
    (m.insert name v).toList = Listing.set m.toList name v :=
  toList_put name v m.store m.keyed m.distinct

theorem toList_insert_of_absent {m : NameMap α} {name : Text} {v : α}
    (h : m.contains name = false) : (m.insert name v).toList = m.toList ++ [(name, v)] := by
  rw [contains_eq] at h
  simp [toList_insert, Listing.set, h]

theorem toList_erase (m : NameMap α) (name : Text) :
    (m.erase name).toList = Listing.remove m.toList name := by
  have hkey : ∀ e ∈ m.store,
      (e.key != Text.fold name) = !Listing.sameName e.name name := by
    intro e he
    simp [Listing.sameName, m.keyed e he, bne]
  simp only [toList, erase, Listing.remove, List.filter_map, Function.comp_def]
  rw [List.filter_congr hkey]

theorem toList_erase_found {m : NameMap α} {name : Text} {e : Text × α}
    (h : Listing.lookup? m.toList name = some e) :
    (m.erase name).toList = Listing.remove m.toList e.1 := by
  have hfold : Text.fold e.1 = Text.fold name := by
    simpa [Listing.sameName] using List.find?_some h
  simp only [toList_erase, Listing.remove, Listing.sameName, hfold]

/-- A map is known by its entries. -/
theorem ext_toList {m n : NameMap α} (h : m.toList = n.toList) : m = n := by
  have hkeyed : ∀ m : NameMap α,
      m.store = m.toList.map fun p => ⟨Text.fold p.1, p.1, p.2⟩ := by
    intro m
    simp only [toList, List.map_map, Function.comp_def]
    conv_lhs => rw [← List.map_id m.store]
    refine List.map_congr_left fun e he => ?_
    rw [← m.keyed e he]
    rfl
  have hstore : m.store = n.store := by rw [hkeyed m, hkeyed n, h]
  cases m
  cases n
  simpa using hstore

/-! ## Names that are texts -/

theorem fetch_text (m : NameMap α) (name : Text) :
    m.fetch (.text name) =
      (Listing.lookup? m.toList name).elim (.error .nameAbsent) fun e => .ok e.2 := by
  unfold fetch
  simp only [nameOf, bind, Except.bind, get?_eq]
  cases Listing.lookup? m.toList name <;> rfl

theorem fetchSpelling_text (m : NameMap α) (name : Text) :
    m.fetchSpelling (.text name) =
      (Listing.lookup? m.toList name).elim (.error .nameAbsent) fun e => .ok e.1 := by
  unfold fetchSpelling
  simp only [nameOf, bind, Except.bind, spelling?_eq]
  cases Listing.lookup? m.toList name <;> rfl

theorem remove_text (m : NameMap α) (name : Text) :
    m.remove (.text name) =
      (Listing.lookup? m.toList name).elim (.error .nameAbsent) fun _ => .ok (m.erase name) := by
  unfold remove
  simp only [nameOf, bind, Except.bind, contains_eq]
  cases Listing.lookup? m.toList name <;> rfl

theorem pop_text (m : NameMap α) (name : Text) (otherwise : Option α) :
    m.pop (.text name) otherwise =
      (Listing.lookup? m.toList name).elim
        (otherwise.elim (.error .nameAbsent) fun v => .ok (v, m))
        fun e => .ok (e.2, m.erase name) := by
  unfold pop
  simp only [nameOf, bind, Except.bind, get?_eq]
  cases Listing.lookup? m.toList name <;> cases otherwise <;> rfl

theorem setDefault_text (m : NameMap α) (name : Text) (v : α) :
    m.setDefault (.text name) v =
      .ok ((Listing.lookup? m.toList name).elim (v, m.insert name v) fun e => (e.2, m)) := by
  unfold setDefault
  simp only [nameOf, bind, Except.bind, get?_eq]
  cases Listing.lookup? m.toList name <;> rfl

/-! ## Operations that go through others -/

theorem popFirst_eq (m : NameMap α) :
    m.popFirst = match m.toList with
      | [] => .error .nameAbsent
      | e :: _ => .ok (e, m.erase e.1) := by
  unfold popFirst
  rw [names_eq]
  cases hl : m.toList with
  | nil => rfl
  | cons e rest =>
    have hlookup : Listing.lookup? (e :: rest) e.1 = some e :=
      Listing.lookup?_of_mem (hl ▸ m.toList_distinct) (by simp)
    simp only [List.map_cons, fetch_text, remove_text, hl, hlookup]
    rfl

theorem clear_eq_empty (m : NameMap α) : m.clear = ∅ := by
  induction hn : m.size using Nat.strongRecOn generalizing m with
  | ind n ih =>
    rw [clear]
    split
    · rename_i rest h
      exact ih _ (hn ▸ size_popFirst_lt h) rest rfl
    · rename_i f h
      rw [popFirst_eq] at h
      cases hl : m.toList with
      | nil => exact ext_toList (by rw [hl, toList_empty])
      | cons e rest => simp [hl] at h

theorem toList_insertAll (m : NameMap α) (pairs : Listing α)
    (h : Listing.Distinct (m.toList ++ pairs)) :
    (m.insertAll pairs).toList = m.toList ++ pairs := by
  induction pairs generalizing m with
  | nil => simp [insertAll]
  | cons p rest ih =>
    have habsent : m.contains p.1 = false := contains_eq_false_iff.2 fun e he =>
      (List.pairwise_append.1 h).2.2 e he p (by simp)
    have hinsert := toList_insert_of_absent (v := p.2) habsent
    have hrest := ih (m.insert p.1 p.2) (by rw [hinsert]; simpa using h)
    simpa [insertAll, hinsert] using hrest

theorem copy_eq_self (m : NameMap α) : m.copy = m := by
  refine ext_toList ?_
  have h := toList_insertAll ∅ m.toList (by simpa [toList_empty] using m.toList_distinct)
  simpa [copy, ofList, toList_empty] using h

end NameMap

end HiveTable
