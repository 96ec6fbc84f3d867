import HiveTable.Proofs.Success
import HiveTable.Proofs.TimeOfDay.Fraction

/-!
# Times of day are read back as they were written

A time is read back with a width that shows all of its digits before the zeros at their end
(`parse_text`). For a time that was read this is the time itself (`text_of_parse`); for a time
that was made from numbers it may be wider (`parse_of_make`).
-/

namespace HiveTable.TimeOfDay
open Number

/-! ## How times are made -/

/-- A time as it is made: only a zero fraction has no width. -/
def Made (t : TimeOfDay) : Prop := t.fractionDigits = 0 ↔ t.nanos = 0

theorem width_eq_zero_iff (nanos given : Nat) : width nanos given = 0 ↔ nanos = 0 := by
  have := List.length_pos_iff.2 (digits_ne_nil nanos)
  unfold width
  split
  · simp [*]
  · split <;> omega

/-- A width that was made is not made anew. -/
theorem width_of_made {t : TimeOfDay} (h : t.Made) :
    width t.nanos t.fractionDigits = t.fractionDigits := by
  unfold Made at h
  unfold width
  split
  · omega
  · split <;> omega

theorem field_eq_ok_iff {f : TimeField} {v : Value} {n : { n : Nat // n ≤ f.limit }} :
    field f v = .ok n ↔ v = .int n := by
  cases v with
  | int i =>
    obtain ⟨n, hn⟩ := n
    by_cases hi : 0 ≤ i ∧ i ≤ f.limit
    · simp only [field, hi, and_self, dite_true, Except.ok.injEq, Subtype.mk.injEq,
        Value.int.injEq]
      omega
    · simp only [field, hi, dite_false, Value.int.injEq]
      constructor
      · rintro ⟨⟩
      · rintro rfl
        omega
  | _ => simp [field]

/-- A missing width counts as none. -/
theorem make_eq_ok_iff {hour minute second nanos fractionDigits : Value} {t : TimeOfDay} :
    make hour minute second nanos fractionDigits = .ok t ↔
      (hour = .int t.hour ∧ minute = .int t.minute ∧ second = .int t.second ∧
        nanos = .int t.nanos) ∧
      ∃ given : Nat, given ≤ 9 ∧
        (fractionDigits = .int given ∨ fractionDigits = .null ∧ given = 0) ∧
        t.fractionDigits = width t.nanos given := by
  constructor
  · intro h
    unfold make at h
    obtain ⟨⟨h₁, hle₁⟩, hhour, h⟩ := bind_eq_ok.1 h
    obtain ⟨⟨m, hle₂⟩, hminute, h⟩ := bind_eq_ok.1 h
    obtain ⟨⟨s, hle₃⟩, hsecond, h⟩ := bind_eq_ok.1 h
    obtain ⟨⟨n, hle₄⟩, hnanos, h⟩ := bind_eq_ok.1 h
    have hfields : (hour = .int h₁ ∧ minute = .int m ∧ second = .int s ∧ nanos = .int n) :=
      ⟨field_eq_ok_iff.1 hhour, field_eq_ok_iff.1 hminute, field_eq_ok_iff.1 hsecond,
        field_eq_ok_iff.1 hnanos⟩
    dsimp only at h
    split at h
    · obtain ⟨⟨d, hle₅⟩, hdigits, h⟩ := bind_eq_ok.1 h
      obtain rfl := Except.ok.inj h
      have hd : 0 = d := congrArg Subtype.val (Except.ok.inj hdigits)
      exact ⟨hfields, d, hle₅, .inr ⟨rfl, hd.symm⟩, rfl⟩
    · obtain ⟨⟨d, hle₅⟩, hdigits, h⟩ := bind_eq_ok.1 h
      obtain rfl := Except.ok.inj h
      exact ⟨hfields, d, hle₅, .inl (field_eq_ok_iff.1 hdigits), rfl⟩
  · rintro ⟨⟨rfl, rfl, rfl, rfl⟩, given, hle, hgiven, hwidth⟩
    have hhour : field .hour (.int t.hour) = .ok ⟨t.hour, t.hour_le⟩ := field_eq_ok_iff.2 rfl
    have hminute : field .minute (.int t.minute) = .ok ⟨t.minute, t.minute_le⟩ :=
      field_eq_ok_iff.2 rfl
    have hsecond : field .second (.int t.second) = .ok ⟨t.second, t.second_le⟩ :=
      field_eq_ok_iff.2 rfl
    have hnanos : field .nanos (.int t.nanos) = .ok ⟨t.nanos, t.nanos_le⟩ :=
      field_eq_ok_iff.2 rfl
    have hdigits : field .fractionDigits (.int given) = .ok ⟨given, hle⟩ := field_eq_ok_iff.2 rfl
    obtain ⟨h, m, s, n, d, _, _, _, _, _⟩ := t
    obtain rfl : d = width n given := hwidth
    rcases hgiven with rfl | ⟨rfl, rfl⟩
    · simp only [make, hhour, hminute, hsecond, hnanos, hdigits, bind, Except.bind, pure,
        Except.pure]
    · simp only [make, hhour, hminute, hsecond, hnanos, bind, Except.bind, pure, Except.pure]

theorem made_of_make {hour minute second nanos fractionDigits : Value} {t : TimeOfDay}
    (h : make hour minute second nanos fractionDigits = .ok t) : t.Made := by
  obtain ⟨-, given, -, -, hwidth⟩ := make_eq_ok_iff.1 h
  unfold Made
  rw [hwidth, width_eq_zero_iff]

theorem ofNat_eq_ok_iff {hour minute second nanos fractionDigits : Nat} {t : TimeOfDay} :
    ofNat hour minute second nanos fractionDigits = .ok t ↔
      (hour = t.hour ∧ minute = t.minute ∧ second = t.second ∧ nanos = t.nanos) ∧
        fractionDigits ≤ 9 ∧ t.fractionDigits = width t.nanos fractionDigits := by
  rw [ofNat, make_eq_ok_iff]
  simp only [Value.int.injEq, Int.natCast_inj, reduceCtorEq, false_and, or_false]
  constructor
  · rintro ⟨hfields, given, hle, rfl, hwidth⟩
    exact ⟨hfields, hle, hwidth⟩
  · rintro ⟨hfields, hle, hwidth⟩
    exact ⟨hfields, _, hle, rfl, hwidth⟩

/-! ## Reading what was written -/

def twoDigits (n : Nat) : List Nat := [n / 10, n % 10]

theorem isField_twoDigits {n : Nat} (h : n < 100) : IsField (twoDigits n) :=
  ⟨.inr rfl, by simp [twoDigits]; omega⟩

theorem ofDigits_twoDigits (n : Nat) : ofDigits (twoDigits n) = n := by
  simp only [twoDigits, ofDigits, List.foldl_cons, List.foldl_nil]
  omega

theorem padded_two {n : Nat} (h : n < 100) :
    padded 2 n = String.ofList (numeral (twoDigits n)) := by
  rw [padded_eq, places_two h]
  rfl

theorem shown_eq_nil_iff {t : TimeOfDay} (h : t.Made) : t.shown = [] ↔ t.nanos = 0 := by
  rw [← List.length_eq_zero_iff, length_shown]
  constructor
  · intro hmax
    exact h.1 (by omega)
  · intro hzero
    rw [hzero, significant_zero, h.2 hzero]
    rfl

/-- The digits behind the point; a zero fraction is not written. -/
def written (t : TimeOfDay) : List Nat := if t.nanos = 0 then [] else t.shown

theorem text_eq_layout_written (t : TimeOfDay) :
    t.text = String.ofList
      (layout (twoDigits t.hour) (twoDigits t.minute) (twoDigits t.second) t.written) := by
  have := t.hour_le
  have := t.minute_le
  have := t.second_le
  have hcore := core_eq_nil_iff t.nanos
  unfold text
  simp only [padded_two (n := t.hour) (by omega), padded_two (n := t.minute) (by omega),
    padded_two (n := t.second) (by omega), fractionText_eq]
  rw [layout, written, String.ext_iff]
  by_cases hzero : t.nanos = 0
  · simp [hzero]
  · simp [hzero, shown_eq_core_append, hcore]

theorem text_eq_layout {t : TimeOfDay} (h : t.Made) :
    t.text = String.ofList
      (layout (twoDigits t.hour) (twoDigits t.minute) (twoDigits t.second) t.shown) := by
  have hwritten : t.written = t.shown := by
    unfold written
    split
    · exact ((shown_eq_nil_iff h).2 ‹_›).symm
    · rfl
  rw [text_eq_layout_written, hwritten]

/-- The same time, wide enough for all of its digits before the zeros at the end. -/
def widened (t : TimeOfDay) : TimeOfDay :=
  { t with
    fractionDigits := max t.fractionDigits (significant t.nanos)
    fractionDigits_le := Nat.max_le.2 ⟨t.fractionDigits_le, significant_le t.nanos⟩ }

theorem made_widened {t : TimeOfDay} (h : t.Made) : t.widened.Made := by
  have hshown := shown_eq_nil_iff h
  rw [← List.length_eq_zero_iff, length_shown] at hshown
  exact hshown

theorem shown_widened (t : TimeOfDay) : t.widened.shown = t.shown := by
  simp [shown, widened]

theorem text_widened {t : TimeOfDay} (h : t.Made) : t.widened.text = t.text := by
  rw [text_eq_layout (made_widened h), text_eq_layout h, shown_widened]
  rfl

theorem widened_eq_self_iff (t : TimeOfDay) :
    t.widened = t ↔ significant t.nanos ≤ t.fractionDigits := by
  rw [← max_eq_left_iff]
  constructor
  · exact fun h => congrArg fractionDigits h
  · intro h
    obtain ⟨_, _, _, _, _, _, _, _, _, _⟩ := t
    simpa [widened] using h

theorem fraction_shown {t : TimeOfDay} (h : t.Made) :
    fraction t.shown = (t.nanos, t.widened.fractionDigits) := by
  have hlength : t.shown.length = t.widened.fractionDigits := length_shown t
  have htake : t.shown.take 9 = t.shown :=
    List.take_of_length_le (hlength ▸ t.widened.fractionDigits_le)
  have hvalue : ofDigits (nineDigits t.shown) = t.nanos := by
    rw [nineDigits, htake, ← places_eq_shown_append, ofDigits_places]
  rw [fraction_eq, hvalue, htake, hlength]
  split
  · rename_i hall
    rw [← htake, ← ofDigits_nineDigits_eq_zero_iff, hvalue] at hall
    rw [(made_widened h).2 hall]
  · rfl

theorem parse_text {t : TimeOfDay} (h : t.Made) : parse t.text = .ok t.widened := by
  have := t.hour_le
  have := t.minute_le
  have := t.second_le
  have hspelled := spelled_layout (isField_twoDigits (n := t.hour) (by omega))
    (isField_twoDigits (n := t.minute) (by omega)) (isField_twoDigits (n := t.second) (by omega))
    (shown_lt t)
  rw [text_eq_layout h, Text.ofString, String.toList_ofList, parse_spelled hspelled,
    ofDigits_twoDigits, ofDigits_twoDigits, ofDigits_twoDigits, fraction_shown h, ofNat_eq_ok_iff]
  exact ⟨⟨rfl, rfl, rfl, rfl⟩, t.widened.fractionDigits_le,
    (width_of_made (made_widened h)).symm⟩

/-! ## Times that were read -/

theorem made_of_parse {t : Text} {v : TimeOfDay} (h : parse t = .ok v) : v.Made := by
  obtain ⟨h', m, s, f, hspelled⟩ := exists_spelled_of_parse h
  rw [parse_spelled hspelled] at h
  exact made_of_make h

/-- The digits that are shown of a time that was read are those that count, unless these are
zeros. -/
theorem shown_of_parse {t : Text} {v : TimeOfDay} {h m s f : List Nat}
    (hspelled : Spelled t h m s f) (hread : parse t = .ok v) :
    v.shown = (if ∃ d ∈ f.take 9, d ≠ 0 then f.take 9 else []) ∧
      significant v.nanos ≤ v.fractionDigits := by
  have hmade := made_of_parse hread
  rw [parse_spelled hspelled, fraction_eq, ofNat_eq_ok_iff] at hread
  obtain ⟨⟨-, -, -, hnanos⟩, -, hwidth⟩ := hread
  have hzero : v.nanos = 0 ↔ ∀ d ∈ f.take 9, d = 0 := by
    rw [← hnanos, ofDigits_nineDigits_eq_zero_iff]
  by_cases hall : ∀ d ∈ f.take 9, d = 0
  · have hne : ¬ ∃ d ∈ f.take 9, d ≠ 0 := by simpa using hall
    rw [if_neg hne, hzero.2 hall, significant_zero]
    exact ⟨(shown_eq_nil_iff hmade).2 (hzero.2 hall), Nat.zero_le _⟩
  · have hex : ∃ d ∈ f.take 9, d ≠ 0 := by simpa using hall
    have hplaces : places 9 v.nanos = nineDigits f := by
      rw [← hnanos, places_ofDigits (length_nineDigits f) (nineDigits_lt hspelled.fraction)]
    have hdigits : v.fractionDigits = (f.take 9).length := by
      have hne : ¬ ∀ d ∈ f, d = 0 := fun h => hall fun d hd => h d (List.mem_of_mem_take hd)
      have hlength : (f.take 9).length ≠ 0 := by
        obtain ⟨d, hd, -⟩ := hex
        exact Nat.ne_of_gt (List.length_pos_of_mem hd)
      rw [hwidth, if_neg hne, width, if_neg (mt hzero.1 hall), if_neg hlength]
    have hsignificant : significant v.nanos ≤ v.fractionDigits := by
      have := le_trailingZeros_append (f.take 9) (9 - (f.take 9).length)
      rw [significant, hplaces, hdigits, nineDigits]
      omega
    refine ⟨?_, hsignificant⟩
    rw [if_pos hex, shown, max_eq_left hsignificant, hplaces, hdigits, nineDigits,
      List.take_left]

/-- A time that was read has the values of its digits, cut off past the nanoseconds. It is
written in two digits each and with the digits of its fraction that count, if one of these is
not zero; it is read back as it is, and texts of different times differ. -/
theorem text_of_parse {t : Text} {v : TimeOfDay} (hread : parse t = .ok v) :
    (∃ h m s f, Spelled t h m s f) ∧
    (∀ h m s f, Spelled t h m s f →
      (v.hour = ofDigits h ∧ v.minute = ofDigits m ∧ v.second = ofDigits s) ∧
      v.nanos = ⌊decimalPart f * 10 ^ 9⌋₊ ∧
      v.text = String.ofList (layout (twoDigits v.hour) (twoDigits v.minute) (twoDigits v.second)
        (if ∃ d ∈ f.take 9, d ≠ 0 then f.take 9 else []))) ∧
    parse v.text = .ok v ∧
    ∀ t' v', parse t' = .ok v' → (v = v' ↔ v.text = v'.text) := by
  have hback : ∀ t v, parse t = .ok v → parse v.text = .ok v := by
    intro t v hread
    obtain ⟨h, m, s, f, hspelled⟩ := exists_spelled_of_parse hread
    have hsame := (widened_eq_self_iff v).2 (shown_of_parse hspelled hread).2
    rw [parse_text (made_of_parse hread), hsame]
  refine ⟨exists_spelled_of_parse hread, fun h m s f hspelled => ?_, hback t v hread,
    fun t' v' hread' => ⟨congrArg text, fun htext => ?_⟩⟩
  · have hshown := (shown_of_parse hspelled hread).1
    have hmade := made_of_parse hread
    have hfields := hread
    rw [parse_spelled hspelled, fraction_eq, ofNat_eq_ok_iff] at hfields
    obtain ⟨⟨hhour, hminute, hsecond, hnanos⟩, -, -⟩ := hfields
    refine ⟨⟨hhour.symm, hminute.symm, hsecond.symm⟩, ?_, ?_⟩
    · rw [← hnanos, ofDigits_nineDigits hspelled.fraction]
    · rw [text_eq_layout hmade, hshown]
  · have hboth := (hback t v hread).symm
    rw [htext, hback t' v' hread'] at hboth
    exact Except.ok.inj hboth

/-- Zeros at the end of a fraction stay, and digits past the ninth go. -/
theorem text_of_parse_long_fraction :
    ∃ v, parse " 7:05:9.12000000009" = .ok v ∧ v.text = "07:05:09.120000000" := by
  have hread : parse " 7:05:9.12000000009" = .ok ⟨7, 5, 9, 120000000, 9, by decide, by decide,
    by decide, by decide, by decide⟩ := by rfl
  refine ⟨_, hread, ?_⟩
  have hspelled : Spelled " 7:05:9.12000000009" [7] [0, 5] [9] [1, 2, 0, 0, 0, 0, 0, 0, 0, 0, 9] :=
    ⟨⟨by decide, by decide⟩, ⟨by decide, by decide⟩, ⟨by decide, by decide⟩, by decide, by decide⟩
  exact ((text_of_parse hread).2.1 _ _ _ _ hspelled).2.2

/-! ## Times that were made -/

theorem point_not_mem_numeral {ds : List Nat} (h : ∀ d ∈ ds, d < 10) : '.' ∉ numeral ds :=
  fun hmem => absurd (isDigit_of_mem_numeral h '.' hmem) (by decide)

/-- Only a fraction brings a point. -/
theorem point_mem_layout_iff {h m s f : List Nat} (hh : ∀ d ∈ h, d < 10) (hm : ∀ d ∈ m, d < 10)
    (hs : ∀ d ∈ s, d < 10) : '.' ∈ layout h m s f ↔ f ≠ [] := by
  by_cases hf : f = [] <;>
    simp [layout, hf, point_not_mem_numeral hh, point_not_mem_numeral hm, point_not_mem_numeral hs]

/-- A time that was made has a width exactly if it has a fraction. It is written with as many
digits of its fraction as it is wide, but with none left out that is not zero at the end. It is
read back with the width it was written with, so as itself exactly if it was wide enough; it is
then written the same, and made anew of its fields it is the same. -/
theorem parse_of_make {hour minute second nanos fractionDigits : Value} {t : TimeOfDay}
    (hmake : make hour minute second nanos fractionDigits = .ok t) :
    let wide := max t.fractionDigits (significant t.nanos)
    ((t.fractionDigits = 0 ↔ t.nanos = 0) ∧ (t.nanos = 0 ↔ '.' ∉ t.text.toList) ∧
      (t.nanos ≠ 0 → 1 ≤ t.fractionDigits ∧ t.fractionDigits ≤ 9)) ∧
    (∃ f, t.text = String.ofList
        (layout (twoDigits t.hour) (twoDigits t.minute) (twoDigits t.second) f) ∧
      f = (places 9 t.nanos).take wide ∧ f.length = wide ∧ wide ≤ 9) ∧
    (∃ t', parse t.text = .ok t' ∧
      (t'.hour = t.hour ∧ t'.minute = t.minute ∧ t'.second = t.second ∧ t'.nanos = t.nanos ∧
        t'.fractionDigits = wide) ∧
      (t' = t ↔ significant t.nanos ≤ t.fractionDigits) ∧ t'.text = t.text) ∧
    make (.int t.hour) (.int t.minute) (.int t.second) (.int t.nanos) (.int t.fractionDigits) =
      .ok t := by
  intro wide
  have hmade := made_of_make hmake
  have htwo : ∀ n < 100, ∀ d ∈ twoDigits n, d < 10 := fun n hn => (isField_twoDigits hn).digit
  have := t.hour_le
  have := t.minute_le
  have := t.second_le
  refine ⟨⟨hmade, ?_, fun hnanos => ?_⟩, ⟨t.shown, text_eq_layout hmade, rfl, length_shown t, ?_⟩,
    ⟨t.widened, parse_text hmade, ⟨rfl, rfl, rfl, rfl, rfl⟩, widened_eq_self_iff t,
      text_widened hmade⟩, ?_⟩
  · rw [text_eq_layout hmade, String.toList_ofList, point_mem_layout_iff (htwo _ (by omega))
      (htwo _ (by omega)) (htwo _ (by omega)), not_not, shown_eq_nil_iff hmade]
  · exact ⟨Nat.pos_of_ne_zero (mt hmade.1 hnanos), t.fractionDigits_le⟩
  · exact t.widened.fractionDigits_le
  · exact make_eq_ok_iff.2 ⟨⟨rfl, rfl, rfl, rfl⟩, _, t.fractionDigits_le, .inl rfl,
      (width_of_made hmade).symm⟩

/-- Five nanoseconds have a width of one digit, but nine are written and read. -/
theorem parse_of_make_short_width :
    ∃ t t', make (.int 1) (.int 2) (.int 3) (.int 5) .null = .ok t ∧ t.fractionDigits = 1 ∧
      parse t.text = .ok t' ∧ t'.fractionDigits = 9 ∧ t' ≠ t := by
  have hdigits : digits 5 = [5] := by simp [digits]
  have hwide : significant 5 = 9 := by
    simp [significant, places, hdigits, trailingZeros, List.rtakeWhile]
  have hmake : make (.int 1) (.int 2) (.int 3) (.int 5) .null = .ok ⟨1, 2, 3, 5, 1, by decide,
      by decide, by decide, by decide, by decide⟩ := by
    refine make_eq_ok_iff.2 ⟨⟨rfl, rfl, rfl, rfl⟩, 0, by decide, .inr ⟨rfl, rfl⟩, ?_⟩
    simp [width, hdigits]
  obtain ⟨-, -, ⟨t', hread, ⟨-, -, -, -, hdigits'⟩, hsame, -⟩, -⟩ := parse_of_make hmake
  simp only [hwide] at hdigits' hsame
  exact ⟨_, t', hmake, rfl, hread, hdigits', fun h => absurd (hsame.1 h) (by decide)⟩

end HiveTable.TimeOfDay
