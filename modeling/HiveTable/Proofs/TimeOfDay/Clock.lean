import HiveTable.Clock
import HiveTable.Proofs.TimeOfDay.Order

/-!
# Times of day and what a clock shows

A clock shows microseconds. What it shows becomes a time of day and comes back as it was, also by
way of the text (`toClockTime_ofClockTime`, `parse_text_ofClockTime`). A time of day can always be
shown by a clock (`ofValues_toClockTime`) and loses only the digits past the microsecond.
-/

namespace HiveTable.TimeOfDay
open Number

/-! ## From a clock -/

theorem ofNat_of_clockTime (c : ClockTime) :
    ofNat c.hour c.minute c.second (c.micros * 1000) 6 = .ok (ofClockTime c) :=
  ofNat_eq_ok_iff.2 ⟨⟨rfl, rfl, rfl, rfl⟩, by decide, rfl⟩

theorem toClockTime_ofClockTime (c : ClockTime) : (ofClockTime c).toClockTime = c := by
  obtain ⟨hour, minute, second, micros, _, _, _, _⟩ := c
  simp [ofClockTime, toClockTime]

/-- The last three digits of whole microseconds are zeros. -/
theorem significant_micros {micros : Nat} (h : micros ≤ 999999) :
    significant (micros * 1000) ≤ 6 := by
  have hlength : (places 6 micros).length = 6 := length_places (Nat.lt_succ_of_le h)
  have hvalue : ofDigits (places 6 micros ++ List.replicate 3 0) = micros * 1000 := by
    rw [ofDigits_append_list, ofDigits_places, ofDigits_replicate_zero, List.length_replicate]
    omega
  have hplaces : places 9 (micros * 1000) = places 6 micros ++ List.replicate 3 0 := by
    rw [← hvalue]
    refine places_ofDigits (by rw [List.length_append, hlength, List.length_replicate]) ?_
    intro d hd
    rcases List.mem_append.1 hd with hd | hd
    · exact places_lt 6 micros d hd
    · rw [List.eq_of_mem_replicate hd]
      decide
  have hzeros := le_trailingZeros_append (places 6 micros) 3
  rw [← hplaces] at hzeros
  unfold significant
  omega

theorem parse_text_ofClockTime (c : ClockTime) :
    parse (ofClockTime c).text = .ok (ofClockTime c) := by
  have hwide : significant (ofClockTime c).nanos ≤ (ofClockTime c).fractionDigits := by
    show significant (c.micros * 1000) ≤ width (c.micros * 1000) 6
    unfold width
    split
    · rename_i hzero
      rw [hzero, significant_zero]
    · exact significant_micros c.micros_le
  rw [parse_text (made_of_make (ofNat_of_clockTime c)), (widened_eq_self_iff _).2 hwide]

/-! ## To a clock -/

/-- The fields that a clock is given are in its ranges. -/
theorem ofValues_toClockTime (t : TimeOfDay) :
    ClockTime.ofValues [.int t.hour, .int t.minute, .int t.second, .int (t.nanos / 1000 : Nat)] =
      .ok t.toClockTime := by
  have hfield : ∀ n : Nat, n ≤ 999999 → ClockTime.field (.int n) = .ok n := by
    intro n hn
    have hrange : -ClockTime.maxGiven - 1 ≤ (n : Int) ∧ (n : Int) ≤ ClockTime.maxGiven := by
      unfold ClockTime.maxGiven
      omega
    exact if_pos hrange
  have hday := t.fields_le
  have hhour := hfield t.hour (by omega)
  have hminute := hfield t.minute (by omega)
  have hsecond := hfield t.second (by omega)
  have hmicros := hfield (t.nanos / 1000) t.toClockTime.micros_le
  have hmake : ClockTime.make? t.hour t.minute t.second (t.nanos / 1000 : Nat) =
      some t.toClockTime := dif_pos (by omega)
  generalize ((t.nanos / 1000 : Nat) : Int) = micros at hmicros hmake ⊢
  simp [ClockTime.ofValues, ClockTime.ofFields, ClockTime.read, hhour, hminute, hsecond, hmicros,
    ok_bind, hmake]
  rfl

theorem totalNanos_shown_by_clock (t : TimeOfDay) :
    (ofClockTime t.toClockTime).totalNanos = t.totalNanos / 1000 * 1000 := by
  show (t.hour * 3600 + t.minute * 60 + t.second) * 1000000000 + t.nanos / 1000 * 1000 = _
  unfold totalNanos
  omega

theorem fractionDigits_shown_by_clock (t : TimeOfDay) :
    (ofClockTime t.toClockTime).fractionDigits = if t.nanos / 1000 = 0 then 0 else 6 := by
  show width (t.nanos / 1000 * 1000) 6 = _
  simp [width]

/-- What a clock shows is a time of day that the clock shows so again, and that is read back from
its text. A time of day is always one that a clock can show, and then has lost what is less than a
microsecond; its fraction is six digits wide, if anything is left of it. The nanoseconds number the
fields of the times of a day, all of them, from zero on and in their order. -/
theorem clock_shows :
    (∀ c : ClockTime, (ofClockTime c).toClockTime = c ∧
      parse (ofClockTime c).text = .ok (ofClockTime c)) ∧
    (∀ t : TimeOfDay,
      ClockTime.ofValues [.int t.hour, .int t.minute, .int t.second, .int (t.nanos / 1000 : Nat)] =
        .ok t.toClockTime ∧
      (ofClockTime t.toClockTime).totalNanos = t.totalNanos / 1000 * 1000 ∧
      (ofClockTime t.toClockTime).fractionDigits = if t.nanos / 1000 = 0 then 0 else 6) ∧
    (∃ e : Fields ≃o Fin (86400 * 10 ^ 9), ∀ t : TimeOfDay, (e t.fields : Nat) = t.totalNanos) ∧
    ∀ x : Fields, ∃ t : TimeOfDay, t.fields = x ∧
      make (.int t.hour) (.int t.minute) (.int t.second) (.int t.nanos) .null = .ok t :=
  ⟨fun c => ⟨toClockTime_ofClockTime c, parse_text_ofClockTime c⟩,
    fun t => ⟨ofValues_toClockTime t, totalNanos_shown_by_clock t,
      fractionDigits_shown_by_clock t⟩,
    ⟨nanosOfDay, nanosOfDay_fields⟩, fun x => ⟨ofFields x, fields_ofFields x, make_ofFields x⟩⟩

end HiveTable.TimeOfDay
