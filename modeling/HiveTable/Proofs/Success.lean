import Mathlib.Data.List.Forall2

/-!
# What a success or a failure tells of the steps before it

Work that succeeded had all its steps succeed: `bind_eq_ok` and `mapError_eq_ok` take a success
apart step by step, and `mapM_eq_ok` a loop item by item, or `forM_eq_ok` if it only checks its
items. A loop whose steps cannot fail succeeds: `foldlM_succeeds`; and it succeeds as another one
does whose steps succeed as its own (`foldlM_agrees`). Work that failed did so in one of its steps:
`bind_eq_error` and `mapError_eq_error`, and `foldlM_eq_error` for a loop.
-/

namespace HiveTable
variable {ε ε' α β : Type}

theorem ok_bind (a : α) (f : α → Except ε β) : (.ok a : Except ε α) >>= f = f a := rfl

theorem exists_of_isOk {x : Except ε α} (h : x.isOk = true) : ∃ a, x = .ok a := by
  cases x with
  | error e => cases h
  | ok a => exact ⟨a, rfl⟩

theorem ok_of_toOption {x : Except ε α} {a : α} (h : x.toOption = some a) : x = .ok a := by
  cases x with
  | error e => cases h
  | ok b => exact congrArg Except.ok (Option.some.inj h)

theorem exists_error_of_isOk {x : Except ε α} (h : x.isOk = false) : ∃ e, x = .error e := by
  cases x with
  | error e => exact ⟨e, rfl⟩
  | ok a => cases h

theorem bind_eq_ok {x : Except ε α} {f : α → Except ε β} {b : β} :
    x >>= f = .ok b ↔ ∃ a, x = .ok a ∧ f a = .ok b := by
  cases x <;> simp [bind, Except.bind]

theorem mapError_eq_ok {x : Except ε α} {g : ε → ε'} {a : α} :
    x.mapError g = .ok a ↔ x = .ok a := by
  cases x with
  | error e =>
    constructor
    · rintro ⟨⟩
    · rintro ⟨⟩
  | ok v =>
    constructor
    · rintro ⟨rfl⟩
      rfl
    · rintro ⟨rfl⟩
      rfl

theorem bind_eq_error {x : Except ε α} {f : α → Except ε β} {e : ε} :
    x >>= f = .error e ↔ x = .error e ∨ ∃ a, x = .ok a ∧ f a = .error e := by
  cases x <;> simp [bind, Except.bind]

theorem mapError_eq_error {x : Except ε α} {g : ε → ε'} {e' : ε'} :
    x.mapError g = .error e' ↔ ∃ e, x = .error e ∧ g e = e' := by
  cases x with
  | error e =>
    constructor
    · exact fun h => ⟨e, rfl, Except.error.inj h⟩
    · rintro ⟨_, ⟨rfl⟩, rfl⟩
      rfl
  | ok a =>
    constructor
    · rintro ⟨⟩
    · rintro ⟨_, ⟨⟩, -⟩

theorem mapM_eq_ok {f : α → Except ε β} {l : List α} {bs : List β} :
    l.mapM f = .ok bs ↔ List.Forall₂ (fun a b => f a = .ok b) l bs := by
  induction l generalizing bs with
  | nil =>
    rw [List.forall₂_nil_left_iff]
    exact ⟨fun h => (Except.ok.inj h).symm, fun h => congrArg Except.ok h.symm⟩
  | cons a rest ih =>
    rw [List.mapM_cons, List.forall₂_cons_left_iff]
    constructor
    · intro h
      obtain ⟨b, hb, h⟩ := bind_eq_ok.1 h
      obtain ⟨bs', hbs, h⟩ := bind_eq_ok.1 h
      exact ⟨b, bs', hb, ih.1 hbs, (Except.ok.inj h).symm⟩
    · rintro ⟨b, bs', hb, hbs, rfl⟩
      rw [hb, ok_bind, ih.2 hbs]
      rfl

theorem exists_of_mem_mapM {f : α → Except ε β} {l : List α} {bs : List β}
    (h : l.mapM f = .ok bs) {b : β} (hb : b ∈ bs) : ∃ a ∈ l, f a = .ok b := by
  induction mapM_eq_ok.1 h with
  | nil => cases hb
  | cons hfirst hrest ih =>
    rcases List.mem_cons.1 hb with rfl | hmem
    · exact ⟨_, List.mem_cons_self, hfirst⟩
    · obtain ⟨a, ha, hfound⟩ := ih (mapM_eq_ok.2 hrest) hmem
      exact ⟨a, List.mem_cons_of_mem _ ha, hfound⟩

/-- A loop that only checks its items succeeds if they all pass. -/
theorem forM_eq_ok {f : α → Except ε Unit} {l : List α} :
    l.forM f = .ok () ↔ ∀ a ∈ l, f a = .ok () := by
  induction l with
  | nil => exact iff_of_true rfl (by simp)
  | cons a rest ih =>
    show (f a >>= fun _ => rest.forM f) = .ok () ↔ _
    rw [bind_eq_ok, List.forall_mem_cons]
    constructor
    · rintro ⟨_, hfirst, hrest⟩
      exact ⟨hfirst, ih.1 hrest⟩
    · rintro ⟨hfirst, hrest⟩
      exact ⟨(), hfirst, ih.2 hrest⟩

/-- A loop fails at the first item whose step fails. -/
theorem foldlM_eq_error {f : β → α → Except ε β} {l : List α} {b : β} {e : ε} :
    l.foldlM f b = .error e ↔ ∃ before a rest b', l = before ++ a :: rest ∧
      before.foldlM f b = .ok b' ∧ f b' a = .error e := by
  induction l generalizing b with
  | nil =>
    constructor
    · rintro ⟨⟩
    · rintro ⟨before, a, rest, _, heq, -⟩
      simp at heq
  | cons a l ih =>
    rw [List.foldlM_cons, bind_eq_error]
    constructor
    · rintro (hfirst | ⟨b', hfirst, hrest⟩)
      · exact ⟨[], a, l, b, rfl, rfl, hfirst⟩
      · obtain ⟨before, a', rest, b'', rfl, hbefore, hfails⟩ := ih.1 hrest
        refine ⟨a :: before, a', rest, b'', rfl, ?_, hfails⟩
        rw [List.foldlM_cons, hfirst]
        exact hbefore
    · rintro ⟨before, a', rest, b', heq, hbefore, hfails⟩
      cases before with
      | nil =>
        obtain ⟨rfl, rfl⟩ := List.cons.inj heq
        obtain rfl := Except.ok.inj hbefore
        exact .inl hfails
      | cons _ before =>
        obtain ⟨rfl, rfl⟩ := List.cons.inj heq
        obtain ⟨b'', hfirst, hbefore⟩ := bind_eq_ok.1 hbefore
        exact .inr ⟨b'', hfirst, ih.2 ⟨before, a', rest, b', rfl, hbefore, hfails⟩⟩

/-- A loop succeeds if its steps do and keep what they need for it. -/
theorem foldlM_succeeds {P : β → Prop} {f : β → α → Except ε β} {l : List α}
    (hf : ∀ a ∈ l, ∀ b, P b → ∃ b', f b a = .ok b' ∧ P b') {b : β} (hb : P b) :
    ∃ b', l.foldlM f b = .ok b' ∧ P b' := by
  induction l generalizing b with
  | nil => exact ⟨b, rfl, hb⟩
  | cons a rest ih =>
    obtain ⟨hfirst, hrest⟩ := List.forall_mem_cons.1 hf
    obtain ⟨next, hnext, hkept⟩ := hfirst b hb
    rw [List.foldlM_cons, hnext]
    exact ih hrest hkept

/-- The failures of the steps may differ. -/
theorem foldlM_agrees {f : β → α → Except ε β} {g : β → α → Except ε' β}
    (hfg : ∀ b a b', f b a = .ok b' → g b a = .ok b') {l : List α} {b b' : β}
    (h : l.foldlM f b = .ok b') : l.foldlM g b = .ok b' := by
  induction l generalizing b with
  | nil => exact congrArg Except.ok (Except.ok.inj h)
  | cons a rest ih =>
    rw [List.foldlM_cons] at h
    obtain ⟨next, hnext, hrest⟩ := bind_eq_ok.1 h
    rw [List.foldlM_cons, hfg b a next hnext]
    exact ih hrest

end HiveTable
