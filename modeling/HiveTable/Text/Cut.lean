/-! A text cut in two at its first separator. -/
namespace HiveTable.Text
variable {α : Type} [DecidableEq α]

/-- What stands before and after the first separator, if there is one. -/
def cut? (sep : α) : List α → Option (List α × List α)
  | [] => none
  | c :: rest => if c = sep then some ([], rest) else (cut? sep rest).map fun p => (c :: p.1, p.2)

theorem cut?_append_cons {sep : α} {before : List α} (h : sep ∉ before)
    (after : List α) : cut? sep (before ++ sep :: after) = some (before, after) := by
  induction before with
  | nil => simp [cut?]
  | cons c rest ih =>
    simp only [List.mem_cons, not_or] at h
    simp [cut?, Ne.symm h.1, ih h.2]

theorem cut?_eq_some_iff {sep : α} {s before after : List α} :
    cut? sep s = some (before, after) ↔ s = before ++ sep :: after ∧ sep ∉ before := by
  constructor
  · intro h
    induction s generalizing before with
    | nil => simp [cut?] at h
    | cons c rest ih =>
      by_cases hc : c = sep
      · simp only [cut?, hc, if_true, Option.some.injEq, Prod.mk.injEq] at h
        simp [← h.1, ← h.2, hc]
      · simp only [cut?, hc, if_false, Option.map_eq_some_iff] at h
        obtain ⟨⟨b, a⟩, hr, hp⟩ := h
        obtain ⟨rfl, rfl⟩ := Prod.mk.inj hp
        obtain ⟨rfl, hb⟩ := ih hr
        simp [hb, Ne.symm hc]
  · rintro ⟨rfl, h⟩
    exact cut?_append_cons h after

end HiveTable.Text
