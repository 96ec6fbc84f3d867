import HiveTable.Proofs.TimeOfDay.RoundTrip

/-!
# Which values are times of day

A text is a time of day exactly if it is spelled as one and its hour, minute and second are within
a day. A `Fault` says what is wrong with anything else, and it is what the value is refused for
(`ofValue_of_fault`). Blanks around a text do not matter, and between its letters there may be
none (`ofValue_grammar`).
-/

namespace HiveTable.TimeOfDay
open Number

/-! ## Numbers in and out of their ranges -/

def InDay (hour minute second : Nat) : Prop := hour ≤ 23 ∧ minute ≤ 59 ∧ second ≤ 59

/-- Of the numbers that are too large the first one counts. -/
inductive OutOfDay (hour minute second : Nat) : TimeFault → Prop
  | hour (h : 23 < hour) : OutOfDay hour minute second (.outOfRange .hour hour)
  | minute (hhour : hour ≤ 23) (h : 59 < minute) :
      OutOfDay hour minute second (.outOfRange .minute minute)
  | second (hhour : hour ≤ 23) (hminute : minute ≤ 59) (h : 59 < second) :
      OutOfDay hour minute second (.outOfRange .second second)

theorem inDay_or_outOfDay (hour minute second : Nat) :
    InDay hour minute second ∨ ∃ fault, OutOfDay hour minute second fault := by
  rcases Nat.lt_or_ge 23 hour with hhour | hhour
  · exact .inr ⟨_, .hour hhour⟩
  rcases Nat.lt_or_ge 59 minute with hminute | hminute
  · exact .inr ⟨_, .minute hhour hminute⟩
  rcases Nat.lt_or_ge 59 second with hsecond | hsecond
  · exact .inr ⟨_, .second hhour hminute hsecond⟩
  exact .inl ⟨hhour, hminute, hsecond⟩

theorem field_of_le {f : TimeField} {n : Nat} (h : n ≤ f.limit) : field f (.int n) = .ok ⟨n, h⟩ :=
  field_eq_ok_iff.2 rfl

theorem field_of_lt {f : TimeField} {n : Nat} (h : f.limit < n) :
    field f (.int n) = .error (.outOfRange f n) :=
  dif_neg fun hrange => absurd hrange.2 (by omega)

section
variable {hour minute second nanos given : Nat}

theorem ofNat_of_inDay (h : InDay hour minute second) (hnanos : nanos ≤ 999999999)
    (hgiven : given ≤ 9) : ∃ v, ofNat hour minute second nanos given = .ok v :=
  ⟨⟨hour, minute, second, nanos, width nanos given, h.1, h.2.1, h.2.2, hnanos,
    width_le nanos given hnanos hgiven⟩, ofNat_eq_ok_iff.2 ⟨⟨rfl, rfl, rfl, rfl⟩, hgiven, rfl⟩⟩

theorem ofNat_of_outOfDay {fault : TimeFault} (h : OutOfDay hour minute second fault) :
    ofNat hour minute second nanos given = .error fault := by
  unfold ofNat make
  cases h with
  | hour h => rw [field_of_lt (f := .hour) h]; rfl
  | minute hhour h =>
    rw [field_of_le (f := .hour) hhour, field_of_lt (f := .minute) h]; rfl
  | second hhour hminute h =>
    rw [field_of_le (f := .hour) hhour, field_of_le (f := .minute) hminute,
      field_of_lt (f := .second) h]
    rfl

end

theorem fraction_le {f : List Nat} (h : ∀ d ∈ f, d < 10) :
    (fraction f).1 ≤ 999999999 ∧ (fraction f).2 ≤ 9 := by
  have hvalue := ofDigits_lt (nineDigits_lt h)
  rw [length_nineDigits] at hvalue
  rw [fraction_eq]
  refine ⟨Nat.le_of_lt_succ hvalue, ?_⟩
  dsimp only
  split
  · exact Nat.zero_le 9
  · exact List.length_take_le 9 f

/-! ## Texts and other values -/

/-- What is wrong with a value that is no time of day. -/
inductive Fault : Value → TimeFault → Prop
  | notText {w : Value} (h : ∀ t, w ≠ .text t) : Fault w (.notText w.kind)
  | malformed {t : Text} (h : ∀ h m s f, ¬ Spelled t h m s f) : Fault (.text t) (.malformed t)
  | outOfDay {t : Text} {h m s f : List Nat} {fault : TimeFault} (hspelled : Spelled t h m s f)
      (hfault : OutOfDay (ofDigits h) (ofDigits m) (ofDigits s) fault) : Fault (.text t) fault

theorem parse_of_not_spelled {t : Text} (h : ∀ h m s f, ¬ Spelled t h m s f) :
    parse t = .error (.malformed t) := by
  unfold parse
  split
  · rfl
  · rename_i hread
    obtain ⟨h', m, s, hspelled⟩ := exists_spelled_of_read? hread
    exact absurd hspelled (h h' m s _)

theorem parse_inDay {t : Text} {h m s f : List Nat} (hspelled : Spelled t h m s f)
    (hday : InDay (ofDigits h) (ofDigits m) (ofDigits s)) : ∃ v, parse t = .ok v := by
  have hfraction := fraction_le hspelled.fraction
  rw [parse_spelled hspelled]
  exact ofNat_of_inDay hday hfraction.1 hfraction.2

theorem fields_of_parse {t : Text} {h m s f : List Nat} {v : TimeOfDay}
    (hspelled : Spelled t h m s f) (hread : parse t = .ok v) :
    v.hour = ofDigits h ∧ v.minute = ofDigits m ∧ v.second = ofDigits s := by
  rw [parse_spelled hspelled, ofNat_eq_ok_iff] at hread
  obtain ⟨⟨hhour, hminute, hsecond, -⟩, -⟩ := hread
  exact ⟨hhour.symm, hminute.symm, hsecond.symm⟩

/-- A value that is no time of day has a fault. -/
theorem exists_fault (w : Value) : (∃ v, ofValue w = .ok v) ∨ ∃ fault, Fault w fault := by
  by_cases htext : ∃ t, w = .text t
  · obtain ⟨t, rfl⟩ := htext
    by_cases hspelled : ∃ h m s f, Spelled t h m s f
    · obtain ⟨h, m, s, f, hspelled⟩ := hspelled
      rcases inDay_or_outOfDay (ofDigits h) (ofDigits m) (ofDigits s) with hday | ⟨fault, hfault⟩
      · exact .inl (parse_inDay hspelled hday)
      · exact .inr ⟨fault, .outOfDay hspelled hfault⟩
    · exact .inr ⟨_, .malformed fun h m s f hspelled' => hspelled ⟨h, m, s, f, hspelled'⟩⟩
  · exact .inr ⟨_, .notText fun t ht => htext ⟨t, ht⟩⟩

theorem ofValue_of_fault {w : Value} {fault : TimeFault} (h : Fault w fault) :
    ofValue w = .error fault := by
  cases h with
  | notText h =>
    cases w with
    | text t => exact absurd rfl (h t)
    | _ => rfl
  | malformed h => exact parse_of_not_spelled h
  | outOfDay hspelled hfault => exact (parse_spelled hspelled).trans (ofNat_of_outOfDay hfault)

theorem exists_ofValue_iff {w : Value} : (∃ v, ofValue w = .ok v) ↔
    ∃ t h m s f, w = .text t ∧ Spelled t h m s f ∧
      InDay (ofDigits h) (ofDigits m) (ofDigits s) := by
  constructor
  · rintro ⟨v, hread⟩
    cases w with
    | text t =>
      obtain ⟨h, m, s, f, hspelled⟩ := exists_spelled_of_parse hread
      obtain ⟨hhour, hminute, hsecond⟩ := fields_of_parse hspelled hread
      refine ⟨t, h, m, s, f, rfl, hspelled, ?_⟩
      rw [← hhour, ← hminute, ← hsecond]
      exact ⟨v.hour_le, v.minute_le, v.second_le⟩
    | _ => cases hread
  · rintro ⟨t, h, m, s, f, rfl, hspelled, hday⟩
    exact parse_inDay hspelled hday

/-! ## Blanks -/

theorem parse_blanks {before after t : Text} {v : TimeOfDay} (hbefore : Text.Blanks before)
    (hafter : Text.Blanks after) (h : parse t = .ok v) : parse (before ++ t ++ after) = .ok v := by
  obtain ⟨h', m, s, f, hspelled⟩ := exists_spelled_of_parse h
  obtain ⟨hh, hm, hs, hf, htext⟩ := hspelled
  have hspelled' : Spelled (before ++ t ++ after) h' m s f :=
    ⟨hh, hm, hs, hf, (Text.trim_blanks_append_blanks hbefore hafter t).trans htext⟩
  rw [parse_spelled hspelled', ← parse_spelled ⟨hh, hm, hs, hf, htext⟩, h]

theorem not_spelled_of_blank {before after : Text} {l : Letter} (hl : Text.isBlank l = true)
    (hbefore : ¬ Text.Blanks before) (hafter : ¬ Text.Blanks after) (h m s f : List Nat) :
    ¬ Spelled (before ++ l :: after) h m s f := by
  rintro ⟨hh, hm, hs, hf, htext⟩
  have hmem := Text.mem_trim_of_between l hbefore hafter
  rw [htext] at hmem
  rw [not_isBlank_of_mem_layout hh hm hs hf l hmem] at hl
  cases hl

/-- A value is a time of day exactly if it is a text of one or two digits for each of hour, minute
and second, and of a point and one digit or more for a fraction if there is one, when the blanks
around it are left out, and these numbers are within a day; they are then those of the time.
Anything else is refused as a malformed time, for its `Fault`. More blanks around a time change
nothing, and a text with a blank between other letters is no time. -/
theorem ofValue_grammar :
    (∀ w, (∃ v, ofValue w = .ok v) ↔ ∃ t h m s f, w = .text t ∧ Spelled t h m s f ∧
      InDay (ofDigits h) (ofDigits m) (ofDigits s)) ∧
    (∀ t h m s f v, Spelled t h m s f → ofValue (.text t) = .ok v →
      v.hour = ofDigits h ∧ v.minute = ofDigits m ∧ v.second = ofDigits s) ∧
    (∀ w, (¬ ∃ v, ofValue w = .ok v) → ∃ fault, Fault w fault ∧ ofValue w = .error fault ∧
      (Refusal.time fault).label = "MalformedTimeError") ∧
    (∀ before t after v, Text.Blanks before → Text.Blanks after → ofValue (.text t) = .ok v →
      ofValue (.text (before ++ t ++ after)) = .ok v) ∧
    ∀ before l after, Text.isBlank l = true → ¬ Text.Blanks before → ¬ Text.Blanks after →
      ofValue (.text (before ++ l :: after)) = .error (.malformed (before ++ l :: after)) := by
  refine ⟨fun w => exists_ofValue_iff, fun t h m s f v => fields_of_parse, fun w hnone => ?_,
    fun before t after v hbefore hafter => parse_blanks hbefore hafter,
    fun before l after hl hbefore hafter => ?_⟩
  · obtain ⟨fault, hfault⟩ := (exists_fault w).resolve_left hnone
    exact ⟨fault, hfault, ofValue_of_fault hfault, rfl⟩
  · exact ofValue_of_fault (.malformed (not_spelled_of_blank hl hbefore hafter))

end HiveTable.TimeOfDay
