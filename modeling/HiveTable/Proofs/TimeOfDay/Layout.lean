import Mathlib.Data.List.Basic
import HiveTable.Proofs.Number.Decimal
import HiveTable.Proofs.Text.Blank
import HiveTable.TimeOfDay

/-!
# How a time of day is laid out

`layout` puts the digits of hour, minute, second and fraction in their places, and `Spelled`
says that a text has these digits, blanks around it aside. A text is read exactly if it is
spelled so, and then as the values of its digits (`read?_eq_some_iff`, `parse_spelled`).
-/

namespace HiveTable.TimeOfDay
open Number

def numeral (ds : List Nat) : List Char := ds.map digitChar

/-- Hour, minute and second with colons between them, and a point before the digits of a
fraction. -/
def layout (h m s f : List Nat) : List Char :=
  numeral h ++ ':' :: (numeral m ++ ':' :: (numeral s ++ if f = [] then [] else '.' :: numeral f))

/-- One digit or two. -/
structure IsField (ds : List Nat) : Prop where
  short : ds.length = 1 ∨ ds.length = 2
  digit : ∀ d ∈ ds, d < 10

/-- A text with these digits, blanks around it aside. -/
structure Spelled (t : Text) (h m s f : List Nat) : Prop where
  hour : IsField h
  minute : IsField m
  second : IsField s
  fraction : ∀ d ∈ f, d < 10
  text : t.trim = Text.ofChars (layout h m s f)

/-! ## Reading the digits -/

theorem isDigit_of_mem_numeral {ds : List Nat} (h : ∀ d ∈ ds, d < 10) :
    ∀ c ∈ numeral ds, c.isDigit = true := by
  intro c hc
  obtain ⟨d, hd, rfl⟩ := List.mem_map.1 hc
  exact isDigit_digitChar (h d hd)

theorem map_toNat_numeral {ds : List Nat} (h : ∀ d ∈ ds, d < 10) :
    (numeral ds).map (·.toNat - 0x30) = ds := by
  rw [numeral, List.map_map]
  conv_rhs => rw [← List.map_id ds]
  refine List.map_congr_left fun d hd => ?_
  simp [toNat_digitChar (h d hd)]

/-- Digits are the numeral of their values. -/
theorem numeral_map_toNat {cs : List Char} (h : ∀ c ∈ cs, c.isDigit = true) :
    numeral (cs.map (·.toNat - 0x30)) = cs ∧ ∀ d ∈ cs.map (·.toNat - 0x30), d < 10 := by
  constructor
  · rw [numeral, List.map_map]
    conv_rhs => rw [← List.map_id cs]
    exact List.map_congr_left fun c hc => (digitChar_toNat (h c hc)).2
  · intro d hd
    obtain ⟨c, hc, rfl⟩ := List.mem_map.1 hd
    exact (digitChar_toNat (h c hc)).1

/-- A field ends where no digit follows. -/
theorem readField?_numeral {ds : List Nat} (h : IsField ds) {rest : List Char}
    (hrest : ∀ c ∈ rest.head?, c.isDigit = false) :
    readField? (numeral ds ++ rest) = some (ofDigits ds, rest) := by
  obtain ⟨hshort | hshort, hdigit⟩ := h
  · obtain ⟨a, rfl⟩ := List.length_eq_one_iff.1 hshort
    have ha : a < 10 := hdigit a (by simp)
    cases rest with
    | nil => simp [numeral, readField?, isDigit_digitChar ha, toNat_digitChar ha, ofDigits]
    | cons c rest =>
      have hc : c.isDigit = false := hrest c (by simp)
      simp [numeral, readField?, isDigit_digitChar ha, toNat_digitChar ha, hc, ofDigits]
  · obtain ⟨a, b, rfl⟩ := List.length_eq_two.1 hshort
    have ha : a < 10 := hdigit a (by simp)
    have hb : b < 10 := hdigit b (by simp)
    simp [numeral, readField?, isDigit_digitChar ha, isDigit_digitChar hb, toNat_digitChar ha,
      toNat_digitChar hb, ofDigits]

/-- What is read as a field is one. -/
theorem exists_of_readField? {cs rest : List Char} {n : Nat} (h : readField? cs = some (n, rest)) :
    ∃ ds, IsField ds ∧ cs = numeral ds ++ rest ∧ n = ofDigits ds := by
  have hone : ∀ c : Char, c.isDigit = true → IsField [c.toNat - 0x30] :=
    fun c hc => ⟨.inl rfl, by simpa using (digitChar_toNat hc).1⟩
  unfold readField? at h
  split at h
  · rename_i c d rest'
    split at h
    · rename_i hc
      obtain ⟨hcval, hcchar⟩ := digitChar_toNat hc
      split at h
      · rename_i hd
        obtain ⟨hdval, hdchar⟩ := digitChar_toNat hd
        obtain ⟨rfl, rfl⟩ := Prod.mk.inj (Option.some.inj h)
        refine ⟨[c.toNat - 0x30, d.toNat - 0x30], ⟨.inr rfl, by simp [hcval, hdval]⟩, ?_, ?_⟩
        · simp [numeral, hcchar, hdchar]
        · simp [ofDigits]
      · obtain ⟨rfl, rfl⟩ := Prod.mk.inj (Option.some.inj h)
        exact ⟨_, hone c hc, by simp [numeral, hcchar], by simp [ofDigits]⟩
    · cases h
  · rename_i c
    split at h
    · rename_i hc
      obtain ⟨rfl, rfl⟩ := Prod.mk.inj (Option.some.inj h)
      exact ⟨_, hone c hc, by simp [numeral, (digitChar_toNat hc).2], by simp [ofDigits]⟩
    · cases h
  · cases h

theorem expect?_eq_some_iff {c : Char} {cs rest : List Char} :
    expect? c cs = some rest ↔ cs = c :: rest := by
  cases cs with
  | nil => simp [expect?]
  | cons d ds =>
    by_cases h : d = c <;> simp [expect?, h]

theorem readFraction?_eq_some_iff {cs : List Char} {f : List Nat} :
    readFraction? cs = some f ↔
      (∀ d ∈ f, d < 10) ∧ cs = if f = [] then [] else '.' :: numeral f := by
  constructor
  · intro h
    unfold readFraction? at h
    split at h
    · obtain rfl := Option.some.inj h
      simp
    · rename_i rest
      split at h
      · rename_i hrest
        obtain rfl := Option.some.inj h
        obtain ⟨hne, hall⟩ := Bool.and_eq_true_iff.1 hrest
        have hdigits : ∀ c ∈ rest, c.isDigit = true := List.all_eq_true.1 hall
        obtain ⟨hnumeral, hlt⟩ := numeral_map_toNat hdigits
        refine ⟨hlt, ?_⟩
        have hmap : rest.map (·.toNat - 0x30) ≠ [] := by simpa using hne
        rw [if_neg hmap, hnumeral]
      · cases h
    · cases h
  · rintro ⟨hlt, rfl⟩
    by_cases hf : f = []
    · simp [hf, readFraction?]
    · have hall : (numeral f).all Char.isDigit = true :=
        List.all_eq_true.2 (isDigit_of_mem_numeral hlt)
      have hne : (numeral f).isEmpty = false := by simpa [numeral] using hf
      simp [hf, readFraction?, hall, hne, map_toNat_numeral hlt]

/-- A text is read exactly if its digits are in their places, and as their values. -/
theorem read?_eq_some_iff {cs : List Char} {hour minute second : Nat} {f : List Nat} :
    read? cs = some (hour, minute, second, f) ↔
      ∃ h m s, (IsField h ∧ IsField m ∧ IsField s ∧ ∀ d ∈ f, d < 10) ∧ cs = layout h m s f ∧
        hour = ofDigits h ∧ minute = ofDigits m ∧ second = ofDigits s := by
  constructor
  · intro hread
    simp only [read?, Option.bind_eq_bind, Option.bind_eq_some_iff, Prod.exists] at hread
    obtain ⟨n, cs₁, hhour, cs₂, hcolon, n', cs₃, hminute, cs₄, hcolon', n'', cs₅, hsecond, f',
      hfraction, heq⟩ := hread
    obtain ⟨rfl, rfl, rfl, rfl⟩ : n = hour ∧ n' = minute ∧ n'' = second ∧ f' = f := by
      simpa using heq
    obtain ⟨h, hh, rfl, hhval⟩ := exists_of_readField? hhour
    obtain ⟨m, hm, rfl, hmval⟩ := exists_of_readField? hminute
    obtain ⟨s, hs, rfl, hsval⟩ := exists_of_readField? hsecond
    obtain rfl := expect?_eq_some_iff.1 hcolon
    obtain rfl := expect?_eq_some_iff.1 hcolon'
    obtain ⟨hf, rfl⟩ := readFraction?_eq_some_iff.1 hfraction
    exact ⟨h, m, s, ⟨hh, hm, hs, hf⟩, rfl, hhval, hmval, hsval⟩
  · rintro ⟨h, m, s, ⟨hh, hm, hs, hf⟩, rfl, rfl, rfl, rfl⟩
    have hcolon : ∀ rest : List Char, ∀ c ∈ (':' :: rest).head?, c.isDigit = false := by
      rintro rest c ⟨⟩
      rfl
    have hpoint : ∀ c ∈ (if f = [] then [] else '.' :: numeral f).head?, c.isDigit = false := by
      split
      · simp
      · rintro c ⟨⟩
        rfl
    have hfraction : readFraction? (if f = [] then [] else '.' :: numeral f) = some f :=
      readFraction?_eq_some_iff.2 ⟨hf, rfl⟩
    have hskip : ∀ rest : List Char, expect? ':' (':' :: rest) = some rest :=
      fun rest => expect?_eq_some_iff.2 rfl
    simp only [read?, layout, readField?_numeral hh (hcolon _), readField?_numeral hm (hcolon _),
      readField?_numeral hs hpoint, hskip, hfraction, Option.bind_eq_bind, Option.bind_some,
      Option.pure_def]

/-! ## Reading a text -/

/-- A text that is spelled as a time is read as the values of its digits. -/
theorem parse_spelled {t : Text} {h m s f : List Nat} (hspelled : Spelled t h m s f) :
    parse t = ofNat (ofDigits h) (ofDigits m) (ofDigits s) (fraction f).1 (fraction f).2 := by
  obtain ⟨hh, hm, hs, hf, htext⟩ := hspelled
  have hread := read?_eq_some_iff.2 ⟨h, m, s, ⟨hh, hm, hs, hf⟩, rfl, rfl, rfl, rfl⟩
  unfold parse
  rw [Text.chars?_eq_some_iff.2 htext, Option.bind_some, hread]

/-- Digits are read only from a text that is spelled with them. -/
theorem exists_spelled_of_read? {t : Text} {hour minute second : Nat} {f : List Nat}
    (h : t.trim.chars?.bind read? = some (hour, minute, second, f)) :
    ∃ h m s, Spelled t h m s f := by
  obtain ⟨cs, hcs, hread⟩ := Option.bind_eq_some_iff.1 h
  obtain ⟨h, m, s, ⟨hh, hm, hs, hf⟩, rfl, -⟩ := read?_eq_some_iff.1 hread
  exact ⟨h, m, s, hh, hm, hs, hf, Text.chars?_eq_some_iff.1 hcs⟩

/-- Only a text that is spelled as a time is read as one. -/
theorem exists_spelled_of_parse {t : Text} {v : TimeOfDay} (h : parse t = .ok v) :
    ∃ h m s f, Spelled t h m s f := by
  unfold parse at h
  split at h
  · cases h
  · rename_i hread
    obtain ⟨h, m, s, hspelled⟩ := exists_spelled_of_read? hread
    exact ⟨h, m, s, _, hspelled⟩

theorem isBlank_digitChar {d : Nat} (h : d < 10) : Text.isBlank (.char (digitChar d)) = false := by
  revert d
  decide

theorem not_isBlank_of_mem_layout {h m s f : List Nat} (hh : IsField h) (hm : IsField m)
    (hs : IsField s) (hf : ∀ d ∈ f, d < 10) :
    ∀ l ∈ Text.ofChars (layout h m s f), Text.isBlank l = false := by
  have hnumeral : ∀ ds : List Nat, (∀ d ∈ ds, d < 10) →
      ∀ c ∈ numeral ds, Text.isBlank (.char c) = false := by
    intro ds hds c hc
    obtain ⟨d, hd, rfl⟩ := List.mem_map.1 hc
    exact isBlank_digitChar (hds d hd)
  have hcolon : Text.isBlank (.char ':') = false := by decide
  have hpoint : Text.isBlank (.char '.') = false := by decide
  intro l hl
  obtain ⟨c, hc, rfl⟩ := List.mem_map.1 hl
  simp only [layout, List.mem_append, List.mem_cons] at hc
  rcases hc with hc | rfl | hc | rfl | hc | hc
  · exact hnumeral h hh.digit c hc
  · exact hcolon
  · exact hnumeral m hm.digit c hc
  · exact hcolon
  · exact hnumeral s hs.digit c hc
  · split at hc
    · cases hc
    · rcases List.mem_cons.1 hc with rfl | hc
      · exact hpoint
      · exact hnumeral f hf c hc

/-- No blanks are to be taken away from a layout. -/
theorem spelled_layout {h m s f : List Nat} (hh : IsField h) (hm : IsField m) (hs : IsField s)
    (hf : ∀ d ∈ f, d < 10) : Spelled (Text.ofChars (layout h m s f)) h m s f :=
  ⟨hh, hm, hs, hf, Text.trim_eq_self (not_isBlank_of_mem_layout hh hm hs hf)⟩

end HiveTable.TimeOfDay
