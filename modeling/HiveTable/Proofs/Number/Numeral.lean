import HiveTable.Number.Numeral
import HiveTable.Proofs.Number.Decimal

/-!
# Numerals of whole numbers

`IsNumeral` says which texts are numerals, and of which numbers. These texts are read as these
numbers and no others are read (`readNumeral_eq_ok_iff`), and a number that is not too long is
written as one of them (`isNumeral_intText`).
-/

namespace HiveTable.Number

/-! ## Digits of any script -/

theorem digitValue?_lt {l : Letter} {n : Nat} (h : Text.digitValue? l = some n) : n < 10 := by
  unfold Text.digitValue? at h
  dsimp only at h
  split at h
  · split at h
    · obtain rfl := Option.some.inj h
      omega
    · cases h
  · obtain ⟨start, hstart, rfl⟩ := Option.map_eq_some_iff.1 h
    have hrange := List.find?_some hstart
    simp only [Bool.and_eq_true, decide_eq_true_eq] at hrange
    omega

theorem digitValue?_digitChar {d : Nat} (h : d < 10) :
    Text.digitValue? (.char (digitChar d)) = some d := by
  revert d
  decide

/-- A digit is no minus sign. -/
theorem ne_minus_of_digitValue? {l : Letter} {d : Nat} (h : Text.digitValue? l = some d) :
    (l == .char '-') = false := by
  rw [beq_eq_false_iff_ne]
  rintro rfl
  cases h

/-- All letters of a text are read exactly if they are digits. -/
theorem leadingDigits_eq_iff {body : Text} {ds : List Nat} :
    leadingDigits body = ds ∧ body.length ≤ ds.length ↔
      body.map Text.digitValue? = ds.map some := by
  induction body generalizing ds with
  | nil => cases ds <;> simp [leadingDigits]
  | cons l rest ih =>
    cases hl : Text.digitValue? l with
    | none => cases ds <;> simp [leadingDigits, hl]
    | some d =>
      cases ds with
      | nil => simp [leadingDigits, hl]
      | cons e es =>
        simp only [leadingDigits, hl, List.cons.injEq, List.length_cons, Nat.add_le_add_iff_right,
          List.map_cons, Option.some.injEq, ← ih, and_assoc]

/-! ## Numerals that are read -/

/-- Digits with these values, at least one and not too many. -/
structure Digits (body : Text) (ds : List Nat) : Prop where
  values : body.map Text.digitValue? = ds.map some
  nonempty : ds ≠ []
  length_le : ds.length ≤ maxNumeralDigits

/-- A text that is a numeral of a number: digits, or a minus sign and digits. -/
inductive IsNumeral : Text → Int → Prop
  | plain {body : Text} {ds : List Nat} (h : Digits body ds) : IsNumeral body (ofDigits ds)
  | minus {body : Text} {ds : List Nat} (h : Digits body ds) :
      IsNumeral (.char '-' :: body) (-(ofDigits ds : Int))

theorem Digits.lt {body : Text} {ds : List Nat} (h : Digits body ds) : ∀ d ∈ ds, d < 10 := by
  intro d hd
  have hmem : some d ∈ body.map Text.digitValue? := by
    rw [h.values]
    exact List.mem_map_of_mem hd
  obtain ⟨l, -, hl⟩ := List.mem_map.1 hmem
  exact digitValue?_lt hl

/-- Digits begin with no minus sign. -/
theorem Digits.exists_cons {body : Text} {ds : List Nat} (h : Digits body ds) :
    ∃ l rest, body = l :: rest ∧ (l == .char '-') = false := by
  have hvalues := h.values
  cases body with
  | nil => exact absurd (List.map_eq_nil_iff.1 hvalues.symm) h.nonempty
  | cons l rest =>
    cases ds with
    | nil => exact absurd rfl h.nonempty
    | cons d ds => exact ⟨l, rest, rfl, ne_minus_of_digitValue? (List.cons.inj hvalues).1⟩

/-- What is read of the digits behind the sign. -/
theorem readDigits_eq_ok_iff (value : List Nat → Int) {t body : Text} {n : Int} :
    (if (leadingDigits body).length > maxNumeralDigits then
        .error (.tooLong (leadingDigits body).length)
      else if (leadingDigits body).isEmpty || (leadingDigits body).length < body.length then
        .error (.unreadable t)
      else .ok (value (leadingDigits body)) : Except NumeralFault Int) = .ok n ↔
    ∃ ds, Digits body ds ∧ value ds = n := by
  constructor
  · intro h
    split at h
    · cases h
    · rename_i hlength
      split at h
      · cases h
      · rename_i hall
        simp only [Bool.or_eq_true, List.isEmpty_iff, decide_eq_true_eq, not_or] at hall
        exact ⟨_, ⟨leadingDigits_eq_iff.1 ⟨rfl, Nat.le_of_not_lt hall.2⟩, hall.1,
          Nat.le_of_not_lt hlength⟩, Except.ok.inj h⟩
  · rintro ⟨ds, ⟨hvalues, hne, hlength⟩, rfl⟩
    obtain ⟨rfl, hall⟩ := leadingDigits_eq_iff.2 hvalues
    rw [if_neg (Nat.not_lt_of_le hlength), if_neg (by simp [hne, hall])]

theorem readNumeral_eq_ok_iff {t : Text} {n : Int} : readNumeral t = .ok n ↔ IsNumeral t n := by
  by_cases hminus : ∃ rest, t = .char '-' :: rest
  · obtain ⟨rest, rfl⟩ := hminus
    refine (readDigits_eq_ok_iff fun ds => -(ofDigits ds : Int)).trans ?_
    constructor
    · rintro ⟨ds, hdigits, rfl⟩
      exact .minus hdigits
    · rintro (hdigits | hdigits)
      · obtain ⟨l, rest', heq, hl⟩ := hdigits.exists_cons
        obtain ⟨rfl, -⟩ := List.cons.inj heq
        cases hl
      · exact ⟨_, hdigits, rfl⟩
  · have hread : readNumeral t = (if (leadingDigits t).length > maxNumeralDigits then
        .error (.tooLong (leadingDigits t).length)
      else if (leadingDigits t).isEmpty || (leadingDigits t).length < t.length then
        .error (.unreadable t)
      else .ok (ofDigits (leadingDigits t))) := by
      unfold readNumeral
      split
      rename_i heq
      split at heq
      · exact absurd ⟨_, rfl⟩ hminus
      · obtain ⟨rfl, rfl⟩ := Prod.mk.inj heq
        rfl
    rw [hread, readDigits_eq_ok_iff fun ds => (ofDigits ds : Int)]
    constructor
    · rintro ⟨ds, hdigits, rfl⟩
      exact .plain hdigits
    · rintro (hdigits | hdigits)
      · exact ⟨_, hdigits, rfl⟩
      · exact absurd ⟨_, rfl⟩ hminus

/-- Every numeral looks like one. -/
theorem IsNumeral.looksNumeric {t : Text} {n : Int} (h : IsNumeral t n) :
    looksNumeric t = true := by
  have hbody : ∀ body ds, Digits body ds →
      body.dropWhile (· == .char '-') = body ∧ body.isEmpty = false ∧
        body.all Text.isDigit = true := by
    intro body ds hdigits
    have hall : body.all Text.isDigit = true := by
      refine List.all_eq_true.2 fun l hl => ?_
      have hmem := List.mem_map_of_mem (f := Text.digitValue?) hl
      rw [hdigits.values] at hmem
      obtain ⟨d, -, hd⟩ := List.mem_map.1 hmem
      simp [Text.isDigit, ← hd]
    obtain ⟨l, rest, rfl, hl⟩ := hdigits.exists_cons
    exact ⟨by simp [hl], rfl, hall⟩
  rcases h with hdigits | hdigits
  · obtain ⟨hdrop, hne, hall⟩ := hbody _ _ hdigits
    simp [Number.looksNumeric, hdrop, hne, hall]
  · obtain ⟨hdrop, hne, hall⟩ := hbody _ _ hdigits
    simp [Number.looksNumeric, hdrop, hne, hall]

/-! ## Numbers that are not too long -/

/-- A number is written with digits of ASCII and a minus sign. -/
theorem mem_intText {n : Int} {c : Char} (h : c ∈ (intText n).toList) :
    c = '-' ∨ ∃ d < 10, c = digitChar d := by
  have hnat : ∀ m : Nat, c ∈ (natText m).toList → ∃ d < 10, c = digitChar d := by
    intro m hm
    rw [natText, String.toList_ofList] at hm
    obtain ⟨d, hd, rfl⟩ := List.mem_map.1 hm
    exact ⟨d, digits_lt m d hd, rfl⟩
  cases n with
  | ofNat m => exact .inr (hnat m h)
  | negSucc m =>
    rw [intText, String.toList_append] at h
    rcases List.mem_append.1 h with h | h
    · exact .inl (by simpa using h)
    · exact .inr (hnat (m + 1) h)

/-- A number with few enough digits can be written. -/
theorem isLong_of_lt {n : Int} {digits : Nat} (h : n.natAbs < Nat.pow 10 digits)
    (hdigits : digits ≤ maxNumeralDigits) : isLong n = false := by
  have hpow : ∀ limit, digits ≤ limit → Nat.pow 10 digits ≤ Nat.pow 10 limit :=
    fun limit => Nat.pow_le_pow_right (by decide)
  exact decide_eq_false (Nat.not_le_of_lt (Nat.lt_of_lt_of_le h (hpow _ hdigits)))

/-- Numerals with too many digits are not read. -/
theorem IsNumeral.not_isLong {t : Text} {n : Int} (h : IsNumeral t n) : isLong n = false := by
  rcases h with hdigits | hdigits
  · exact isLong_of_lt (ofDigits_lt hdigits.lt) hdigits.length_le
  · refine isLong_of_lt ?_ hdigits.length_le
    rw [Int.natAbs_neg]
    exact ofDigits_lt hdigits.lt

theorem length_digits_le_of_lt {n width : Nat} (hwidth : width ≠ 0) (h : n < Nat.pow 10 width) :
    (digits n).length ≤ width := by
  cases width with
  | zero => exact absurd rfl hwidth
  | succ k => exact length_digits_le n k h

theorem digits_natText {n : Nat} (h : isLong n = false) :
    Digits (Text.ofString (natText n)) (digits n) := by
  have hlt : n < Nat.pow 10 maxNumeralDigits := Nat.lt_of_not_le (of_decide_eq_false h)
  have hvalues : (Text.ofString (natText n)).map Text.digitValue? = (digits n).map some := by
    rw [Text.ofString, Text.ofChars, natText, String.toList_ofList, List.map_map, List.map_map]
    exact List.map_congr_left fun d hd => digitValue?_digitChar (digits_lt n d hd)
  exact ⟨hvalues, digits_ne_nil n, length_digits_le_of_lt (by decide) hlt⟩

/-- A number is written as a numeral of it. -/
theorem isNumeral_intText {n : Int} (h : isLong n = false) :
    IsNumeral (Text.ofString (intText n)) n := by
  cases n with
  | ofNat n =>
    have hnumeral := IsNumeral.plain (digits_natText h)
    rwa [ofDigits_digits] at hnumeral
  | negSucc n =>
    have hnumeral := IsNumeral.minus (digits_natText (n := n + 1) h)
    rw [ofDigits_digits] at hnumeral
    have htext : Text.ofString (intText (.negSucc n)) =
        .char '-' :: Text.ofString (natText (n + 1)) := by
      simp [intText, Text.ofString, Text.ofChars]
    rw [htext]
    exact hnumeral

end HiveTable.Number
