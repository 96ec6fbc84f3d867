import Mathlib.Algebra.Group.Nat.Defs
import Mathlib.Data.List.Induction
import HiveTable.Number.Decimal

/-!
# Numerals of a fixed width

A number below a power of ten has one numeral of that many digits, zeros in front included:
`places` writes it and `ofDigits` reads it, and each undoes the other (`ofDigits_places`,
`places_ofDigits`). Numerals of one length are in the order of their values
(`lt_of_ofDigits_lt`), also when zeros at their ends are left out (`lt_of_append_zeros_lt`).
-/

namespace HiveTable.Number

/-! ## Digits as characters -/

theorem toNat_digitChar {d : Nat} (h : d < 10) : (digitChar d).toNat = 0x30 + d := by
  revert d
  decide

theorem isDigit_digitChar {d : Nat} (h : d < 10) : (digitChar d).isDigit = true := by
  revert d
  decide

theorem digitChar_eq_zero_iff {d : Nat} (h : d < 10) : digitChar d = '0' ↔ d = 0 := by
  revert d
  decide

/-- A digit is the character of its value. -/
theorem digitChar_toNat {c : Char} (h : c.isDigit = true) :
    c.toNat - 0x30 < 10 ∧ digitChar (c.toNat - 0x30) = c := by
  have hrange : 0x30 ≤ c.toNat ∧ c.toNat ≤ 0x39 := by
    simpa [Char.isDigit, UInt32.le_iff_toNat_le] using h
  refine ⟨by omega, ?_⟩
  rw [digitChar, Nat.add_sub_cancel' hrange.1]
  exact Char.ofNat_toNat c

/-! ## Values of numerals -/

theorem ofDigits_append_list (ds es : List Nat) :
    ofDigits (ds ++ es) = ofDigits ds * 10 ^ es.length + ofDigits es := by
  induction es using List.reverseRecOn with
  | nil => simp [ofDigits]
  | append_singleton es e ih =>
    rw [← List.append_assoc, ofDigits_append, ofDigits_append, ih, List.length_append,
      List.length_singleton, Nat.pow_succ, ← Nat.mul_assoc]
    omega

theorem ofDigits_replicate_zero (n : Nat) : ofDigits (List.replicate n 0) = 0 := by
  induction n with
  | zero => rfl
  | succ n ih => rw [List.replicate_succ', ofDigits_append, ih]

theorem ofDigits_lt {ds : List Nat} (h : ∀ d ∈ ds, d < 10) :
    ofDigits ds < Nat.pow 10 ds.length := by
  induction ds using List.reverseRecOn with
  | nil => decide
  | append_singleton ds d ih =>
    have hd : d < 10 := h d (by simp)
    have hds := ih fun e he => h e (List.mem_append_left [d] he)
    rw [ofDigits_append, List.length_append, List.length_singleton]
    show _ < Nat.pow 10 ds.length * 10
    omega

/-- Numerals of one length with one value are the same. -/
theorem ofDigits_injective {ds es : List Nat} (hlength : ds.length = es.length)
    (hds : ∀ d ∈ ds, d < 10) (hes : ∀ e ∈ es, e < 10) (h : ofDigits ds = ofDigits es) :
    ds = es := by
  induction ds using List.reverseRecOn generalizing es with
  | nil => exact (List.length_eq_zero_iff.1 hlength.symm).symm
  | append_singleton ds d ih =>
    cases es using List.reverseRecOn with
    | nil => simp at hlength
    | append_singleton es e =>
      have hd : d < 10 := hds d (by simp)
      have he : e < 10 := hes e (by simp)
      rw [ofDigits_append, ofDigits_append] at h
      have hrest : ds = es := by
        refine ih (by simpa using hlength) (fun x hx => ?_) (fun x hx => ?_) (by omega)
        · exact hds x (List.mem_append_left _ hx)
        · exact hes x (List.mem_append_left _ hx)
      obtain rfl : d = e := by omega
      rw [hrest]

theorem ofDigits_eq_zero_iff {ds : List Nat} : ofDigits ds = 0 ↔ ∀ d ∈ ds, d = 0 := by
  induction ds using List.reverseRecOn with
  | nil => simp [ofDigits]
  | append_singleton ds d ih =>
    rw [ofDigits_append, Nat.add_eq_zero_iff, Nat.mul_eq_zero, ih]
    simp [or_imp, forall_and]

theorem ofDigits_cons (d : Nat) (ds : List Nat) :
    ofDigits (d :: ds) = d * 10 ^ ds.length + ofDigits ds := by
  have h := ofDigits_append_list [d] ds
  rwa [show ofDigits [d] = d by simp [ofDigits]] at h

/-! ## The order of numerals -/

/-- The first digits that differ decide, as they do for the values. -/
theorem lt_of_ofDigits_lt {ds es : List Nat} (hlength : ds.length = es.length)
    (hes : ∀ e ∈ es, e < 10) (h : ofDigits ds < ofDigits es) : ds < es := by
  induction ds generalizing es with
  | nil =>
    obtain rfl := List.length_eq_zero_iff.1 hlength.symm
    exact absurd h (Nat.lt_irrefl _)
  | cons d ds ih =>
    cases es with
    | nil => simp at hlength
    | cons e es =>
      have hlength' : ds.length = es.length := by simpa using hlength
      have hrest := fun x hx => hes x (List.mem_cons_of_mem e hx)
      rw [ofDigits_cons, ofDigits_cons, hlength'] at h
      rw [List.cons_lt_cons_iff]
      rcases Nat.lt_trichotomy d e with hlt | rfl | hgt
      · exact .inl hlt
      · exact .inr ⟨rfl, ih hlength' hrest (by omega)⟩
      · have htail : ofDigits es < 10 ^ es.length := ofDigits_lt hrest
        have hhead : (e + 1) * 10 ^ es.length ≤ d * 10 ^ es.length :=
          Nat.mul_le_mul_right _ hgt
        rw [Nat.add_mul, Nat.one_mul] at hhead
        omega

theorem not_lt_zeros (ds : List Nat) : ¬ ds < List.replicate ds.length 0 := by
  induction ds with
  | nil => simp
  | cons d ds ih =>
    rw [List.length_cons, List.replicate_succ, List.cons_lt_cons_iff]
    rintro (h | ⟨-, h⟩)
    · exact Nat.not_lt_zero d h
    · exact ih h

theorem lt_of_append_zeros_lt {ds es : List Nat} {j k : Nat}
    (hlength : ds.length + j = es.length + k)
    (h : ds ++ List.replicate j 0 < es ++ List.replicate k 0) : ds < es := by
  induction ds generalizing es with
  | nil =>
    cases es with
    | nil =>
      obtain rfl : j = k := by simpa using hlength
      exact absurd h (List.lt_irrefl _)
    | cons e es => exact List.nil_lt_cons e es
  | cons d ds ih =>
    cases es with
    | nil =>
      have hk : k = (d :: ds ++ List.replicate j 0).length := by
        rw [List.length_append, List.length_replicate, hlength, List.length_nil, Nat.zero_add]
      rw [List.nil_append, hk] at h
      exact absurd h (not_lt_zeros _)
    | cons e es =>
      rw [List.cons_append, List.cons_append, List.cons_lt_cons_iff] at h
      rw [List.cons_lt_cons_iff]
      refine h.imp_right fun ⟨heq, hrest⟩ => ⟨heq, ih ?_ hrest⟩
      simp only [List.length_cons] at hlength
      omega

/-! ## A fixed width -/

/-- The digits of a number, with zeros in front up to a width. -/
def places (width n : Nat) : List Nat := List.replicate (width - (digits n).length) 0 ++ digits n

theorem padded_eq (width n : Nat) :
    padded width n = String.ofList ((places width n).map digitChar) :=
  rfl

theorem digits_lt (n : Nat) : ∀ d ∈ digits n, d < 10 := by
  induction n using Nat.strongRecOn with
  | ind n ih =>
    rw [digits]
    split
    · simpa
    · intro d hd
      rcases List.mem_append.1 hd with hd | hd
      · exact ih (n / 10) (by omega) d hd
      · have := List.mem_singleton.1 hd
        omega

theorem digits_ne_nil (n : Nat) : digits n ≠ [] := by
  rw [digits]
  split <;> simp

theorem places_lt (width n : Nat) : ∀ d ∈ places width n, d < 10 := by
  intro d hd
  rcases List.mem_append.1 hd with hd | hd
  · rw [List.eq_of_mem_replicate hd]
    decide
  · exact digits_lt n d hd

theorem ofDigits_places (width n : Nat) : ofDigits (places width n) = n := by
  rw [places, ofDigits_append_list, ofDigits_replicate_zero, ofDigits_digits]
  omega

theorem length_places {width n : Nat} (h : n < Nat.pow 10 (width + 1)) :
    (places (width + 1) n).length = width + 1 := by
  have := length_digits_le n width h
  simp only [places, List.length_append, List.length_replicate]
  omega

/-- A numeral is what stands in the places of its value. -/
theorem places_ofDigits {ds : List Nat} {width : Nat} (hlength : ds.length = width + 1)
    (h : ∀ d ∈ ds, d < 10) : places (width + 1) (ofDigits ds) = ds := by
  have hlt := ofDigits_lt h
  rw [hlength] at hlt
  exact ofDigits_injective (by rw [length_places hlt, hlength]) (places_lt _ _) h
    (ofDigits_places _ _)

theorem places_two {n : Nat} (h : n < 100) : places 2 n = [n / 10, n % 10] := by
  have hvalue : ofDigits [n / 10, n % 10] = n := by
    simp only [ofDigits, List.foldl_cons, List.foldl_nil]
    omega
  conv_lhs => rw [← hvalue]
  exact places_ofDigits rfl (by simp; omega)

end HiveTable.Number
