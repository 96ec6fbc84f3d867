import HiveTable.Proofs.NameMap.Listing

/-!
# Maps that are built of pairs

The names of a map that is built of pairs are those of the pairs, each once and with its first
spelling (`names_ofList`), and under a name stands the value of the last pair with that name
(`get?_ofList`).
-/

namespace HiveTable

namespace NameMap
variable {α β : Type}
open Listing

/-! ## One pair -/

theorem map_name_put (key name : Text) (v : α) (store : List (Entry α)) :
    (put key name v store).map (·.name) =
      if key ∈ store.map (·.key) then store.map (·.name) else store.map (·.name) ++ [name] := by
  induction store with
  | nil => simp [put]
  | cons e rest ih =>
    by_cases hk : e.key = key
    · simp [put, hk]
    · have hk' : key ≠ e.key := fun h => hk h.symm
      simp only [put, hk, if_false, List.map_cons, ih, List.mem_cons, hk', false_or]
      split <;> simp

theorem names_insert (m : NameMap α) (name : Text) (v : α) :
    (m.insert name v).names = if m.contains name then m.names else m.names ++ [name] := by
  have hnames := map_name_put (Text.fold name) name v m.store
  simp only [contains_iff_mem_keys]
  exact hnames

theorem value_entryAt?_put (key x name : Text) (v : α) (store : List (Entry α)) :
    (entryAt? x (put key name v store)).map (·.value) =
      if key = x then some v else (entryAt? x store).map (·.value) := by
  induction store with
  | nil =>
    by_cases hx : key = x <;> simp [put, entryAt?, hx]
  | cons e rest ih =>
    by_cases hk : e.key = key
    · by_cases hx : key = x <;> simp [put, entryAt?, hk, hx]
    · by_cases hx : e.key = x
      · subst hx
        simp [put, entryAt?, hk, Ne.symm hk]
      · simpa [put, entryAt?, hk, hx] using ih

theorem get?_insert (m : NameMap α) (name x : Text) (v : α) :
    (m.insert name v).get? x = if sameName name x then some v else m.get? x := by
  have hvalue := value_entryAt?_put (Text.fold name) (Text.fold x) name v m.store
  simp only [sameName, beq_iff_eq]
  exact hvalue

/-- Names that are the same stand for the same value. -/
theorem get?_congr (m : NameMap α) {a b : Text} (h : sameName a b = true) :
    m.get? a = m.get? b := by
  have hfold : Text.fold a = Text.fold b := by simpa [sameName] using h
  rw [get?, get?, entry?, entry?, hfold]

/-- Under the name of an entry stands its value. -/
theorem get?_of_mem {m : NameMap α} {e : Text × α} (h : e ∈ m.toList) :
    m.get? e.1 = some e.2 := by
  rw [get?_eq, lookup?_of_mem m.toList_distinct h]
  rfl

theorem contains_congr (m : NameMap α) {a b : Text} (h : sameName a b = true) :
    m.contains a = m.contains b := by
  have hfold : Text.fold a = Text.fold b := by simpa [sameName] using h
  rw [contains, contains, entry?, entry?, hfold]

/-! ## All pairs -/

theorem names_insertAll (m : NameMap α) (pairs : List (Text × α)) :
    (m.insertAll pairs).names =
      m.names ++ ((pairs.map (·.1)).filter (!m.contains ·)).eraseDupsBy sameName := by
  induction pairs generalizing m with
  | nil => simp [insertAll]
  | cons p rest ih =>
    have hinsert : m.insertAll (p :: rest) = (m.insert p.1 p.2).insertAll rest := rfl
    rw [hinsert, ih, names_insert]
    simp only [contains_insert]
    cases hp : m.contains p.1 with
    | true =>
      -- What is the same as a name that is there is there itself.
      have hseen : ∀ x, (!(sameName p.1 x || m.contains x)) = !m.contains x := by
        intro x
        cases hx : sameName p.1 x with
        | false => rfl
        | true => rw [← contains_congr m hx, hp]; rfl
      simp only [hseen, if_true, List.map_cons]
      rw [List.filter_cons_of_neg (by simp [hp])]
    | false =>
      simp only [Bool.false_eq_true, if_false, List.map_cons]
      rw [List.filter_cons_of_pos (by simp [hp]), List.eraseDupsBy_cons, List.filter_filter,
        List.append_assoc]
      have hrest : ∀ x, (!(sameName p.1 x || m.contains x)) =
          (decide (sameName x p.1 = false) && !m.contains x) := by
        intro x
        rw [sameName_comm x p.1]
        cases sameName p.1 x <;> simp
      simp only [hrest]
      rfl

/-- Each name stands once, as it was first spelled. -/
theorem names_ofList (pairs : List (Text × α)) :
    (ofList pairs).names = (pairs.map (·.1)).eraseDupsBy sameName := by
  have hnames := names_insertAll (∅ : NameMap α) pairs
  have hall : (pairs.map (·.1)).filter (!(∅ : NameMap α).contains ·) = pairs.map (·.1) :=
    List.filter_eq_self.2 fun _ _ => rfl
  rw [hall] at hnames
  exact hnames

theorem get?_insertAll (m : NameMap α) (pairs : List (Text × α)) (name : Text) :
    (m.insertAll pairs).get? name =
      ((pairs.reverse.find? fun p => sameName p.1 name).map (·.2)).or (m.get? name) := by
  induction pairs generalizing m with
  | nil => rfl
  | cons p rest ih =>
    have hinsert : m.insertAll (p :: rest) = (m.insert p.1 p.2).insertAll rest := rfl
    rw [hinsert, ih, get?_insert, List.reverse_cons, List.find?_append]
    cases rest.reverse.find? fun p => sameName p.1 name with
    | some q => rfl
    | none => cases hp : sameName p.1 name <;> simp [hp]

/-- Under a name stands what came last with it. -/
theorem get?_ofList (pairs : List (Text × α)) (name : Text) :
    (ofList pairs).get? name =
      (pairs.reverse.find? fun p => sameName p.1 name).map (·.2) := by
  rw [ofList, get?_insertAll]
  exact Option.or_none

/-- What a map holds came with one of the pairs. -/
theorem exists_mem_of_mem_toList {pairs : List (Text × α)} {e : Text × α}
    (h : e ∈ (ofList pairs).toList) : ∃ p ∈ pairs, p.2 = e.2 := by
  have hget := get?_of_mem h
  rw [get?_ofList] at hget
  obtain ⟨p, hp, hvalue⟩ := Option.map_eq_some_iff.1 hget
  exact ⟨p, List.mem_reverse.1 (List.mem_of_find?_eq_some hp), hvalue⟩

theorem contains_insertAll (m : NameMap α) (pairs : List (Text × α)) (name : Text) :
    (m.insertAll pairs).contains name =
      ((pairs.any fun p => sameName p.1 name) || m.contains name) := by
  have hget : ∀ n : NameMap α, n.contains name = (n.get? name).isSome := by
    intro n
    rw [contains, get?, Option.isSome_map]
  rw [hget, hget, get?_insertAll, Option.isSome_or, Option.isSome_map, Bool.eq_iff_iff,
    Bool.or_eq_true, Bool.or_eq_true, List.find?_isSome, List.any_eq_true]
  simp only [List.mem_reverse]

theorem contains_ofList (pairs : List (Text × α)) (name : Text) :
    (ofList pairs).contains name = pairs.any fun p => sameName p.1 name := by
  rw [ofList, contains_insertAll]
  exact Bool.or_false _

/-- Names of which no two are the same keep all their values. -/
theorem get?_map_toList (m : NameMap α) (f : α → β) (name : Text) :
    (ofList (m.toList.map fun p => (p.1, f p.2))).get? name = (m.get? name).map f := by
  have hdistinct : Distinct (m.toList.map fun p => (p.1, f p.2)) :=
    List.pairwise_map.2 m.toList_distinct
  have htoList := toList_insertAll (∅ : NameMap β) _ (by simpa [toList_empty] using hdistinct)
  rw [get?_eq, get?_eq, ofList, htoList, toList_empty, List.nil_append, lookup?, lookup?,
    List.find?_map]
  simp only [Option.map_map]
  rfl

/-- An update with texts for keys sets all the pairs. -/
theorem update_ofPairs (m : NameMap α) (pairs : List (Text × α)) :
    m.update (pairs.map fun p => (Value.text p.1, p.2)) = (m.insertAll pairs, .ok ()) := by
  induction pairs generalizing m with
  | nil => rfl
  | cons p rest ih => exact ih (m.insert p.1 p.2)

/-- Entries with texts for keys make the map of their pairs. -/
theorem ofEntries_ofPairs (pairs : List (Text × α)) :
    ofEntries (pairs.map fun p => (Value.text p.1, p.2)) = .ok (ofList pairs) := by
  rw [ofEntries, update_ofPairs]
  rfl

end NameMap

namespace Entries
variable {α : Type}

/-- A key that comes again takes the later value. -/
theorem put_text (name : Text) (v : α) (pairs : List (Text × α)) :
    ∃ kept : List (Text × α),
      put (.text name) v (pairs.map fun p => (.text p.1, p.2)) =
        kept.map (fun p => (.text p.1, p.2)) ∧
      (∀ p ∈ kept, p = (name, v) ∨ p ∈ pairs) ∧
      ∀ x, x ∈ kept.map (·.1) ↔ x ∈ pairs.map (·.1) ∨ x = name := by
  induction pairs with
  | nil => exact ⟨[(name, v)], rfl, by simp, by simp⟩
  | cons p rest ih =>
    by_cases hp : p.1 = name
    · refine ⟨(name, v) :: rest, by simp [put, Value.same, hp], ?_, fun x => ?_⟩
      · exact List.forall_mem_cons.2 ⟨.inl rfl, fun q hq => .inr (List.mem_cons_of_mem p hq)⟩
      rw [List.map_cons, List.map_cons, List.mem_cons, List.mem_cons, hp]
      tauto
    · obtain ⟨kept, heq, hmem, hkeys⟩ := ih
      refine ⟨p :: kept, by simp [put, Value.same, hp, heq], ?_, fun x => ?_⟩
      · refine List.forall_mem_cons.2 ⟨.inr List.mem_cons_self, fun q hq => ?_⟩
        exact (hmem q hq).imp_right (List.mem_cons_of_mem p)
      · rw [List.map_cons, List.map_cons, List.mem_cons, List.mem_cons, hkeys, or_assoc]

/-- What a list of pairs with texts for keys leaves: some of the pairs, with all the keys. -/
theorem ofPairs_text (pairs : List (Text × α)) :
    ∃ kept : List (Text × α),
      ofPairs (pairs.map fun p => (Value.text p.1, p.2)) =
        kept.map (fun p => (Value.text p.1, p.2)) ∧
      (∀ p ∈ kept, p ∈ pairs) ∧ ∀ x, x ∈ kept.map (·.1) ↔ x ∈ pairs.map (·.1) := by
  have hfold : ∀ before : List (Text × α), ∃ kept : List (Text × α),
      (pairs.map fun p => (Value.text p.1, p.2)).foldl (fun entries p => put p.1 p.2 entries)
          (before.map fun p => (Value.text p.1, p.2)) =
        kept.map (fun p => (Value.text p.1, p.2)) ∧
      (∀ p ∈ kept, p ∈ before ∨ p ∈ pairs) ∧
      ∀ x, x ∈ kept.map (·.1) ↔ x ∈ before.map (·.1) ∨ x ∈ pairs.map (·.1) := by
    induction pairs with
    | nil => exact fun before => ⟨before, rfl, fun _ => .inl, by simp⟩
    | cons p rest ih =>
      intro before
      obtain ⟨next, hput, hnext, hkeysNext⟩ := put_text p.1 p.2 before
      obtain ⟨kept, heq, hmem, hkeys⟩ := ih next
      refine ⟨kept, by rw [List.map_cons, List.foldl_cons, hput, heq], fun q hq => ?_, fun x => ?_⟩
      · rcases hmem q hq with h | h
        · exact (hnext q h).elim (fun h => .inr (h ▸ List.mem_cons_self)) .inl
        · exact .inr (List.mem_cons_of_mem p h)
      · rw [hkeys, hkeysNext, List.map_cons, List.mem_cons, or_assoc]
  obtain ⟨kept, heq, hmem, hkeys⟩ := hfold []
  exact ⟨kept, heq, fun p hp => (hmem p hp).resolve_left (by simp), fun x => by rw [hkeys]; simp⟩

end Entries

end HiveTable
