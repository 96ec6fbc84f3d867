import Mathlib.Algebra.Order.Floor.Semifield
import Mathlib.Data.List.DropRight
import Mathlib.Data.Rat.Floor
import HiveTable.Proofs.TimeOfDay.Layout

/-!
# The digits of a fraction

Of a fraction that is read nine digits count (`fraction_eq`), and they are its value in
nanoseconds (`ofDigits_nineDigits`). A fraction is written with as many of its nine digits as its
width says, and never fewer than stand before the zeros at their end (`fractionText_eq`).
-/

namespace HiveTable.TimeOfDay
open Number

/-! ## Zeros at the end -/

def trailingZeros (ds : List Nat) : Nat := (ds.rtakeWhile (· = 0)).length

theorem length_rdropWhile_add (ds : List Nat) :
    (ds.rdropWhile (· = 0)).length + trailingZeros ds = ds.length := by
  rw [trailingZeros, ← List.length_append, List.rdropWhile_append_rtakeWhile]

/-- Behind the digits before the zeros at the end there are zeros only. -/
theorem eq_take_append_zeros {ds : List Nat} {k : Nat} (h : ds.length ≤ k + trailingZeros ds) :
    ds = ds.take k ++ List.replicate (ds.length - k) 0 := by
  have hlength := length_rdropWhile_add ds
  have hzeros : ∀ d ∈ ds.drop k, d = 0 := by
    intro d hd
    rw [← List.rdropWhile_append_rtakeWhile (p := (· = 0)) (l := ds), List.drop_append,
      List.drop_eq_nil_of_le (by omega), List.nil_append] at hd
    simpa using List.mem_rtakeWhile_imp (List.mem_of_mem_drop hd)
  have hdrop := List.eq_replicate_of_mem hzeros
  rw [List.length_drop] at hdrop
  rw [← hdrop, List.take_append_drop]

theorem take_max_length (ds zeros : List Nat) (k : Nat) (hzeros : ∀ d ∈ zeros, d = 0)
    (hk : k ≤ (ds ++ zeros).length) :
    (ds ++ zeros).take (max k ds.length) = ds ++ List.replicate (k - ds.length) 0 := by
  rw [List.length_append] at hk
  rw [List.eq_replicate_of_mem hzeros, List.take_append, List.take_of_length_le (by omega),
    List.take_replicate]
  congr 2
  omega

theorem le_trailingZeros_append (ds : List Nat) (k : Nat) :
    k ≤ trailingZeros (ds ++ List.replicate k 0) := by
  induction k with
  | zero => exact Nat.zero_le _
  | succ k ih =>
    rw [List.replicate_succ', ← List.append_assoc, trailingZeros,
      List.rtakeWhile_concat_pos _ _ _ (by simp), List.length_append, List.length_singleton]
    exact Nat.succ_le_succ ih

theorem rdropWhile_numeral {ds : List Nat} (h : ∀ d ∈ ds, d < 10) :
    (numeral ds).rdropWhile (· = '0') = numeral (ds.rdropWhile (· = 0)) := by
  induction ds using List.reverseRecOn with
  | nil => rfl
  | append_singleton ds d ih =>
    have hd : digitChar d = '0' ↔ d = 0 := digitChar_eq_zero_iff (h d (by simp))
    have hrest := ih fun x hx => h x (List.mem_append_left _ hx)
    simp only [numeral, List.map_append, List.map_cons, List.map_nil, List.rdropWhile_concat,
      decide_eq_true_eq, hd] at hrest ⊢
    split
    · exact hrest
    · simp

/-! ## Fractions that are read -/

/-- The digits that count of a fraction, and zeros up to nine. -/
def nineDigits (f : List Nat) : List Nat := f.take 9 ++ List.replicate (9 - (f.take 9).length) 0

theorem length_nineDigits (f : List Nat) : (nineDigits f).length = 9 := by
  simp only [nineDigits, List.length_append, List.length_take, List.length_replicate]
  omega

theorem nineDigits_lt {f : List Nat} (h : ∀ d ∈ f, d < 10) : ∀ d ∈ nineDigits f, d < 10 := by
  intro d hd
  rcases List.mem_append.1 hd with hd | hd
  · exact h d (List.mem_of_mem_take hd)
  · rw [List.eq_of_mem_replicate hd]
    decide

theorem ofDigits_nineDigits_eq_zero_iff (f : List Nat) :
    ofDigits (nineDigits f) = 0 ↔ ∀ d ∈ f.take 9, d = 0 := by
  rw [ofDigits_eq_zero_iff, nineDigits, List.forall_mem_append]
  exact and_iff_left fun d hd => List.eq_of_mem_replicate hd

theorem fraction_eq (f : List Nat) :
    fraction f = (ofDigits (nineDigits f), if ∀ d ∈ f, d = 0 then 0 else (f.take 9).length) := by
  by_cases hall : ∀ d ∈ f, d = 0
  · have hzero : ofDigits (nineDigits f) = 0 :=
      (ofDigits_nineDigits_eq_zero_iff f).2 fun d hd => hall d (List.mem_of_mem_take hd)
    have hdecide : f.all (· = 0) = true := by simpa using hall
    rw [fraction, if_pos hdecide, if_pos hall, hzero]
  · have hdecide : f.all (· = 0) ≠ true := by simpa using hall
    rw [fraction, if_neg hdecide, if_neg hall]
    rfl

/-- The value of a fraction: what stands behind the point. -/
def decimalPart (f : List Nat) : ℚ := ofDigits f / 10 ^ f.length

/-- Digits past the ninth are cut off. -/
theorem ofDigits_nineDigits {f : List Nat} (h : ∀ d ∈ f, d < 10) :
    ofDigits (nineDigits f) = ⌊decimalPart f * 10 ^ 9⌋₊ := by
  have hfloor : ⌊decimalPart f * 10 ^ 9⌋₊ = ofDigits f * 10 ^ 9 / 10 ^ f.length := by
    have hcast : decimalPart f * 10 ^ 9 =
        ((ofDigits f * 10 ^ 9 : ℕ) : ℚ) / ((10 ^ f.length : ℕ) : ℚ) := by
      rw [Nat.cast_mul, Nat.cast_pow, Nat.cast_pow, Nat.cast_ofNat, decimalPart,
        div_mul_eq_mul_div]
    rw [hcast, Nat.floor_div_eq_div]
  rw [hfloor, nineDigits, ofDigits_append_list, ofDigits_replicate_zero, List.length_replicate,
    Nat.add_zero]
  rcases Nat.le_total f.length 9 with hle | hle
  · have hpow : 10 ^ 9 = 10 ^ (9 - f.length) * 10 ^ f.length := by
      rw [← Nat.pow_add, Nat.sub_add_cancel hle]
    rw [List.take_of_length_le hle, hpow, ← Nat.mul_assoc, Nat.mul_div_cancel _ (by positivity)]
  · have htake : (f.take 9).length = 9 := List.length_take_of_le hle
    have hdrop : (f.drop 9).length = f.length - 9 := List.length_drop
    have hrest : ofDigits (f.drop 9) < 10 ^ (f.length - 9) := by
      rw [← hdrop]
      exact ofDigits_lt fun d hd => h d (List.mem_of_mem_drop hd)
    have hpow : 10 ^ f.length = 10 ^ (f.length - 9) * 10 ^ 9 := by
      rw [← Nat.pow_add, Nat.sub_add_cancel hle]
    have hsplit : ofDigits f =
        10 ^ (f.length - 9) * ofDigits (f.take 9) + ofDigits (f.drop 9) := by
      rw [← hdrop, Nat.mul_comm, ← ofDigits_append_list, List.take_append_drop]
    rw [htake, hpow, Nat.mul_div_mul_right _ _ (by positivity), hsplit,
      Nat.mul_add_div (by positivity), Nat.div_eq_of_lt hrest, Nat.sub_self, Nat.pow_zero,
      Nat.mul_one, Nat.add_zero]

/-! ## The digits that are shown -/

/-- How many of the nine digits of a fraction stand before the zeros at their end. -/
def significant (nanos : Nat) : Nat := 9 - trailingZeros (places 9 nanos)

/-- The digits behind the point. -/
def shown (t : TimeOfDay) : List Nat :=
  (places 9 t.nanos).take (max t.fractionDigits (significant t.nanos))

theorem length_places_nanos {n : Nat} (h : n ≤ 999999999) : (places 9 n).length = 9 :=
  length_places (Nat.lt_of_le_of_lt h (by decide))

theorem significant_le (nanos : Nat) : significant nanos ≤ 9 := Nat.sub_le _ _

theorem significant_zero : significant 0 = 0 := by
  have hall : ∀ d ∈ places 9 0, d = 0 := ofDigits_eq_zero_iff.1 (ofDigits_places 9 0)
  have hzeros : (places 9 0).rtakeWhile (· = 0) = places 9 0 :=
    List.rtakeWhile_eq_self_iff.2 fun d hd => by simpa using hall d hd
  rw [significant, trailingZeros, hzeros, length_places_nanos (by decide)]

theorem length_shown (t : TimeOfDay) :
    t.shown.length = max t.fractionDigits (significant t.nanos) := by
  have := t.fractionDigits_le
  have := significant_le t.nanos
  rw [shown, List.length_take, length_places_nanos t.nanos_le]
  omega

theorem shown_lt (t : TimeOfDay) : ∀ d ∈ t.shown, d < 10 :=
  fun d hd => places_lt 9 t.nanos d (List.mem_of_mem_take hd)

/-- What is not shown is zero. -/
theorem places_eq_shown_append (t : TimeOfDay) :
    places 9 t.nanos = t.shown ++ List.replicate (9 - t.shown.length) 0 := by
  have hlength := length_places_nanos t.nanos_le
  have h : (places 9 t.nanos).length ≤
      max t.fractionDigits (significant t.nanos) + trailingZeros (places 9 t.nanos) := by
    unfold significant
    omega
  have heq := eq_take_append_zeros h
  rw [hlength] at heq
  rw [length_shown]
  exact heq

/-- The digits of a fraction before the zeros at its end. -/
def core (nanos : Nat) : List Nat := (places 9 nanos).rdropWhile (· = 0)

theorem length_core {nanos : Nat} (h : nanos ≤ 999999999) :
    (core nanos).length = significant nanos := by
  have hlength := length_rdropWhile_add (places 9 nanos)
  rw [length_places_nanos h] at hlength
  unfold core significant
  omega

theorem shown_eq_core_append (t : TimeOfDay) :
    t.shown = core t.nanos ++ List.replicate (t.fractionDigits - significant t.nanos) 0 := by
  have htake := take_max_length (core t.nanos) ((places 9 t.nanos).rtakeWhile (· = 0))
    t.fractionDigits (fun d hd => by simpa using List.mem_rtakeWhile_imp hd) (by
      rw [core, List.rdropWhile_append_rtakeWhile, length_places_nanos t.nanos_le]
      exact t.fractionDigits_le)
  rwa [length_core t.nanos_le, core, List.rdropWhile_append_rtakeWhile] at htake

/-- The digits before the zeros at the end, and zeros up to the width, are those shown. -/
theorem fractionText_eq (t : TimeOfDay) : t.fractionText = numeral t.shown := by
  have hstripped : (padded 9 t.nanos).toList.rdropWhile (· = '0') = numeral (core t.nanos) := by
    rw [padded_eq, String.toList_ofList]
    exact rdropWhile_numeral (places_lt 9 t.nanos)
  show (padded 9 t.nanos).toList.rdropWhile (· = '0') ++ List.replicate (t.fractionDigits -
    ((padded 9 t.nanos).toList.rdropWhile (· = '0')).length) '0' = _
  rw [hstripped, shown_eq_core_append, numeral, numeral, List.length_map, length_core t.nanos_le,
    List.map_append, List.map_replicate]
  rfl

/-- Only a zero fraction consists of zeros. -/
theorem core_eq_nil_iff (nanos : Nat) : core nanos = [] ↔ nanos = 0 := by
  rw [core, List.rdropWhile_eq_nil_iff]
  conv_rhs => rw [← ofDigits_places 9 nanos, ofDigits_eq_zero_iff]
  simp

end HiveTable.TimeOfDay
