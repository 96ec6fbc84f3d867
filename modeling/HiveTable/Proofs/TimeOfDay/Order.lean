import Mathlib.Data.Prod.Lex
import Mathlib.Data.String.Basic
import Mathlib.Order.Fin.Basic
import Mathlib.Order.Hom.Basic
import HiveTable.Proofs.TimeOfDay.RoundTrip

/-!
# Times of day in their order

The nanoseconds of a day count the times in the order of their fields: `totalNanos_lt_iff`, and
`nanosOfDay` as an isomorphism of orders. Their texts are in this order too, whatever the widths
of the fractions are (`text_sorted`): where two texts first differ the later one has the larger
digit, which is no zero that could be missing from its text.
-/

namespace HiveTable.TimeOfDay
open Number

/-! ## The nanoseconds of a day -/

/-- Hour, minute, second and nanosecond; the first that differs decides the order. -/
abbrev Fields := Fin 24 ×ₗ Fin 60 ×ₗ Fin 60 ×ₗ Fin 1000000000

def fields (t : TimeOfDay) : Fields :=
  toLex (⟨t.hour, Nat.lt_succ_of_le t.hour_le⟩, toLex (⟨t.minute, Nat.lt_succ_of_le t.minute_le⟩,
    toLex (⟨t.second, Nat.lt_succ_of_le t.second_le⟩, ⟨t.nanos, Nat.lt_succ_of_le t.nanos_le⟩)))

theorem fields_le (t : TimeOfDay) :
    t.hour ≤ 23 ∧ t.minute ≤ 59 ∧ t.second ≤ 59 ∧ t.nanos ≤ 999999999 :=
  ⟨t.hour_le, t.minute_le, t.second_le, t.nanos_le⟩

theorem fields_lt_iff {a b : TimeOfDay} : a.fields < b.fields ↔
    a.hour < b.hour ∨ a.hour = b.hour ∧ (a.minute < b.minute ∨ a.minute = b.minute ∧
      (a.second < b.second ∨ a.second = b.second ∧ a.nanos < b.nanos)) := by
  simp [fields, Prod.Lex.toLex_lt_toLex]

theorem totalNanos_lt_iff {a b : TimeOfDay} :
    a.totalNanos < b.totalNanos ↔ a.fields < b.fields := by
  have := a.fields_le
  have := b.fields_le
  rw [fields_lt_iff]
  unfold totalNanos
  omega

theorem totalNanos_eq_iff {a b : TimeOfDay} : a.totalNanos = b.totalNanos ↔
    a.hour = b.hour ∧ a.minute = b.minute ∧ a.second = b.second ∧ a.nanos = b.nanos := by
  have := a.fields_le
  have := b.fields_le
  unfold totalNanos
  omega

theorem totalNanos_lt (t : TimeOfDay) : t.totalNanos < 86400 * 10 ^ 9 := by
  have := t.fields_le
  unfold totalNanos
  omega

/-- The time with these fields, without a width of its own. -/
def ofFields (x : Fields) : TimeOfDay :=
  let nanos := (ofLex (ofLex (ofLex x).2).2).2
  ⟨(ofLex x).1, (ofLex (ofLex x).2).1, (ofLex (ofLex (ofLex x).2).2).1, nanos, width nanos 0,
    Nat.le_of_lt_succ (Fin.isLt _), Nat.le_of_lt_succ (Fin.isLt _),
    Nat.le_of_lt_succ (Fin.isLt _), Nat.le_of_lt_succ nanos.isLt,
    width_le nanos 0 (Nat.le_of_lt_succ nanos.isLt) (by decide)⟩

theorem fields_ofFields (x : Fields) : (ofFields x).fields = x := rfl

theorem make_ofFields (x : Fields) :
    make (.int (ofFields x).hour) (.int (ofFields x).minute) (.int (ofFields x).second)
      (.int (ofFields x).nanos) .null = .ok (ofFields x) :=
  make_eq_ok_iff.2 ⟨⟨rfl, rfl, rfl, rfl⟩, 0, by decide, .inr ⟨rfl, rfl⟩, rfl⟩

/-- The fields of a number of nanoseconds below a day. -/
def fieldsAt (n : Fin (86400 * 10 ^ 9)) : Fields :=
  toLex (⟨n / 3600000000000, by omega⟩, toLex (⟨n / 60000000000 % 60, by omega⟩,
    toLex (⟨n / 1000000000 % 60, by omega⟩, ⟨n % 1000000000, by omega⟩)))

theorem totalNanos_fieldsAt (n : Fin (86400 * 10 ^ 9)) : (ofFields (fieldsAt n)).totalNanos = n := by
  show (n.val / 3600000000000 * 3600 + n.val / 60000000000 % 60 * 60 + n.val / 1000000000 % 60) *
    1000000000 + n.val % 1000000000 = n.val
  omega

theorem fields_eq_of_totalNanos {a b : TimeOfDay} (h : a.totalNanos = b.totalNanos) :
    a.fields = b.fields := by
  obtain ⟨hhour, hminute, hsecond, hnanos⟩ := totalNanos_eq_iff.1 h
  simp [fields, hhour, hminute, hsecond, hnanos]

/-- Fields in their order are numbers of nanoseconds in their order. -/
def nanosOfDay : Fields ≃o Fin (86400 * 10 ^ 9) where
  toFun x := ⟨(ofFields x).totalNanos, totalNanos_lt _⟩
  invFun := fieldsAt
  left_inv x := fields_eq_of_totalNanos (totalNanos_fieldsAt ⟨_, totalNanos_lt (ofFields x)⟩)
  right_inv n := Fin.ext (totalNanos_fieldsAt n)
  map_rel_iff' := not_lt.symm.trans (totalNanos_lt_iff.not.trans not_lt)

theorem nanosOfDay_fields (t : TimeOfDay) : (nanosOfDay t.fields : Nat) = t.totalNanos := rfl

/-! ## The order of digits as texts -/

theorem digitChar_lt {d e : Nat} (he : e < 10) (h : d < e) : digitChar d < digitChar e := by
  revert d
  revert e
  decide

theorem numeral_lt_numeral {ds es : List Nat} (hes : ∀ e ∈ es, e < 10) (h : ds < es) :
    numeral ds < numeral es := by
  induction ds generalizing es with
  | nil =>
    cases es with
    | nil => exact absurd h (List.lt_irrefl _)
    | cons e es => exact List.nil_lt_cons _ _
  | cons d ds ih =>
    cases es with
    | nil => exact absurd h (List.not_lt_nil _)
    | cons e es =>
      obtain ⟨he, hes⟩ := List.forall_mem_cons.1 hes
      refine List.cons_lt_cons_iff.2 ((List.cons_lt_cons_iff.1 h).imp (digitChar_lt he) ?_)
      exact fun ⟨heq, hrest⟩ => ⟨congrArg digitChar heq, ih hes hrest⟩

theorem append_lt_append {cs ds : List Char} (h : cs < ds) (hlength : cs.length = ds.length)
    (rest rest' : List Char) : cs ++ rest < ds ++ rest' := by
  induction cs generalizing ds with
  | nil =>
    obtain rfl := List.length_eq_zero_iff.1 hlength.symm
    exact absurd h (List.lt_irrefl _)
  | cons c cs ih =>
    cases ds with
    | nil => exact absurd h (List.not_lt_nil _)
    | cons d ds =>
      rw [List.cons_append, List.cons_append, List.cons_lt_cons_iff]
      refine (List.cons_lt_cons_iff.1 h).imp_right fun ⟨heq, hrest⟩ => ⟨heq, ih hrest ?_⟩
      simpa using hlength

/-! ## The order of texts -/

/-- Two digits decide the order of what stands behind them. -/
theorem twoDigits_lt {m n : Nat} (hn : n < 100) (h : m < n) (rest rest' : List Char) :
    numeral (twoDigits m) ++ rest < numeral (twoDigits n) ++ rest' := by
  have hdigits := (isField_twoDigits hn).digit
  have hlt : twoDigits m < twoDigits n := by
    refine lt_of_ofDigits_lt rfl hdigits ?_
    rwa [ofDigits_twoDigits, ofDigits_twoDigits]
  exact append_lt_append (numeral_lt_numeral hdigits hlt) rfl _ _

theorem shown_lt_shown {a b : TimeOfDay} (h : a.nanos < b.nanos) : a.shown < b.shown := by
  have hlength := fun t : TimeOfDay => length_places_nanos t.nanos_le
  have hplaces : places 9 a.nanos < places 9 b.nanos := by
    refine lt_of_ofDigits_lt ((hlength a).trans (hlength b).symm) (places_lt 9 b.nanos) ?_
    rwa [ofDigits_places, ofDigits_places]
  have hshown : ∀ t : TimeOfDay, t.shown.length + (9 - t.shown.length) = 9 := fun t =>
    Nat.add_sub_cancel' (t.length_shown ▸ Nat.max_le.2 ⟨t.fractionDigits_le, significant_le _⟩)
  rw [places_eq_shown_append, places_eq_shown_append b] at hplaces
  exact lt_of_append_zeros_lt ((hshown a).trans (hshown b).symm) hplaces

theorem written_eq_nil_iff (t : TimeOfDay) : t.written = [] ↔ t.nanos = 0 := by
  have hcore := core_eq_nil_iff t.nanos
  unfold written
  split <;> simp [shown_eq_core_append, *]

theorem text_lt_text {a b : TimeOfDay} (h : a.totalNanos < b.totalNanos) : a.text < b.text := by
  have := b.fields_le
  rw [String.lt_iff_toList_lt, text_eq_layout_written, text_eq_layout_written b,
    String.toList_ofList, String.toList_ofList]
  unfold layout
  rcases fields_lt_iff.1 (totalNanos_lt_iff.1 h) with
    hhour | ⟨hhour, hminute | ⟨hminute, hsecond | ⟨hsecond, hnanos⟩⟩⟩
  · exact twoDigits_lt (by omega) hhour _ _
  · rw [hhour]
    exact List.append_left_lt (List.cons_lt_cons_self.2 (twoDigits_lt (by omega) hminute _ _))
  · rw [hhour, hminute]
    refine List.append_left_lt (List.cons_lt_cons_self.2 (List.append_left_lt ?_))
    exact List.cons_lt_cons_self.2 (twoDigits_lt (by omega) hsecond _ _)
  · rw [hhour, hminute, hsecond]
    refine List.append_left_lt (List.cons_lt_cons_self.2 (List.append_left_lt ?_))
    refine List.cons_lt_cons_self.2 (List.append_left_lt ?_)
    have hb : b.nanos ≠ 0 := by omega
    rw [if_neg ((written_eq_nil_iff b).not.2 hb)]
    by_cases ha : a.nanos = 0
    · rw [if_pos ((written_eq_nil_iff a).2 ha)]
      exact List.nil_lt_cons _ _
    · rw [if_neg ((written_eq_nil_iff a).not.2 ha), written, if_neg ha, written, if_neg hb]
      exact List.cons_lt_cons_self.2 (numeral_lt_numeral b.shown_lt (shown_lt_shown hnanos))

/-- How many zeros stand behind the digits of a fraction that count. -/
def addedZeros (t : TimeOfDay) : Nat :=
  if t.nanos = 0 then 0 else t.fractionDigits - significant t.nanos

theorem written_eq_core_append (t : TimeOfDay) :
    t.written = core t.nanos ++ List.replicate t.addedZeros 0 := by
  unfold written addedZeros
  split
  · simp [(core_eq_nil_iff t.nanos).2 ‹_›]
  · exact t.shown_eq_core_append

/-- An earlier time has the smaller text, character by character. Texts of the same time differ at
most in zeros at the end of a fraction, which is not zero then. So the order of two texts is never
against the order of their times. -/
theorem text_sorted (a b : TimeOfDay) :
    let withFraction := fun f : List Nat => String.ofList
      (layout (twoDigits a.hour) (twoDigits a.minute) (twoDigits a.second) f)
    (a.totalNanos < b.totalNanos → a.text < b.text) ∧
    (a.totalNanos = b.totalNanos → ∃ f j k,
      a.text = withFraction (f ++ List.replicate j 0) ∧
      b.text = withFraction (f ++ List.replicate k 0) ∧ (f = [] → j = 0 ∧ k = 0)) ∧
    (a.text < b.text → a.totalNanos ≤ b.totalNanos) := by
  refine ⟨text_lt_text, fun htotal => ?_, fun htext => Nat.le_of_not_lt fun htotal => ?_⟩
  · obtain ⟨hhour, hminute, hsecond, hnanos⟩ := totalNanos_eq_iff.1 htotal
    refine ⟨core a.nanos, a.addedZeros, b.addedZeros, ?_, ?_, fun hcore => ?_⟩
    · rw [text_eq_layout_written, written_eq_core_append]
    · rw [text_eq_layout_written, written_eq_core_append, hhour, hminute, hsecond, hnanos]
    · have ha : a.nanos = 0 := (core_eq_nil_iff a.nanos).1 hcore
      exact ⟨if_pos ha, if_pos (hnanos.symm.trans ha)⟩
  · exact lt_asymm htext (text_lt_text htotal)

end HiveTable.TimeOfDay
