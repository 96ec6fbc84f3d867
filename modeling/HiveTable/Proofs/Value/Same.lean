import HiveTable.Value

/-!
# Equal values

Every value is equal to itself, also one that holds itself (`Value.same_self`). Two mappings are
equal as their entries are compared one by one (`Value.same_mapping`).
-/

namespace HiveTable

namespace Value

theorem allFound_eq (xs ys : List (Value × Value)) :
    allFound xs ys = xs.all fun x => ys.any fun y => x.1.same y.1 && x.2.same y.2 := by
  induction xs with
  | nil => rfl
  | cons x rest ih =>
    obtain ⟨k, v⟩ := x
    rw [allFound, ih, List.all_cons]

theorem same_mapping (xs ys : List (Value × Value)) :
    (mapping xs).same (mapping ys) = (xs.length == ys.length &&
      xs.all fun x => ys.any fun y => x.1.same y.1 && x.2.same y.2) := by
  rw [same, allFound_eq]

mutual
theorem same_self (v : Value) : v.same v = true := by
  cases v with
  | null => rfl
  | bool b => cases b <;> rfl
  | int n => simp [same, sameNumber, asInt?]
  | float x => cases x <;> simp [same, Number.Binary64.same]
  | text t => simp [same]
  | date d => simp [same]
  | moment m => simp [same, Moment.same]
  | list items => exact sameItems_self items
  | mapping entries =>
    have hfound := allFound_of_subset entries entries fun e he => he
    simp [same, hfound]
  | anchored a v => simp [same, anchor?]
  | enclosing a isMapping => simp [same, anchor?]

theorem sameItems_self (items : List Value) : sameItems items items = true := by
  cases items with
  | nil => rfl
  | cons v rest => rw [sameItems, same_self v, sameItems_self rest, Bool.and_self]

/-- Over two lists, because the entries that are left are still looked for among all. -/
theorem allFound_of_subset (xs ys : List (Value × Value)) (h : ∀ e ∈ xs, e ∈ ys) :
    allFound xs ys = true := by
  cases xs with
  | nil => rfl
  | cons x rest =>
    obtain ⟨k, v⟩ := x
    obtain ⟨hmem, hrest⟩ := List.forall_mem_cons.1 h
    have hfound : ys.any (fun e => k.same e.1 && v.same e.2) = true :=
      List.any_eq_true.2 ⟨(k, v), hmem, by rw [same_self k, same_self v, Bool.and_self]⟩
    rw [allFound, hfound, allFound_of_subset rest ys hrest, Bool.and_self]
end

end Value

end HiveTable
