import HiveTable.Proofs.Text.Blank
import HiveTable.Proofs.Value.LongNumber

/-!
# Every spelling of a type is read as the type

A type may be spelled as its code, as a numeral of the code or as its name, in any letter case and
with blanks around it. What a text is read as is `ofValue_text_eq_ok_iff`. What is read is the
standard type of its code, if there is one, and is read again as it is from each of its spellings
(`ofValue_spellings`).
-/

namespace HiveTable

theorem Text.upper_ofChars {cs : List Char} (h : ∀ c ∈ cs, Text.upperChar c = [c]) :
    Text.upper (Text.ofChars cs) = Text.ofChars cs := by
  induction cs with
  | nil => rfl
  | cons c cs ih =>
    obtain ⟨hc, hcs⟩ := List.forall_mem_cons.1 h
    have hcs' := ih hcs
    simp only [Text.upper, Text.mapChars, Text.ofChars, List.map_cons, List.flatMap_cons, hc]
      at hcs' ⊢
    rw [hcs']
    rfl

namespace SqlType

/-! ## Names and codes -/

theorem mem_all (type : SqlType) : type ∈ all := by
  cases type <;> decide

/-- What is said of every type is decided type by type. -/
instance {p : SqlType → Prop} [DecidablePred p] : Decidable (∀ type, p type) :=
  decidable_of_iff (∀ type ∈ all, p type)
    ⟨fun h type => h type type.mem_all, fun h type _ => h type⟩

theorem ofName?_eq_some_iff {t : Text} {type : SqlType} :
    ofName? t = some type ↔ t = Text.ofString type.name := by
  have hname : ∀ type : SqlType, ofName? (Text.ofString type.name) = some type := by
    decide +kernel
  constructor
  · intro h
    have hfound := List.find?_some h
    exact eq_of_beq hfound
  · rintro rfl
    exact hname type

theorem ofCode?_eq_some_iff {n : Int} {type : SqlType} : ofCode? n = some type ↔ n = type.code := by
  have hcode : ∀ type : SqlType, ofCode? type.code = some type := by decide +kernel
  constructor
  · intro h
    have hfound := List.find?_some h
    exact (eq_of_beq hfound).symm
  · rintro rfl
    exact hcode type

/-- Names are in upper case and without blanks. -/
theorem key_name :
    ∀ type : SqlType, (Text.ofString type.name).trim.upper = Text.ofString type.name := by
  decide +kernel

theorem not_looksNumeric_name :
    ∀ type : SqlType, Number.looksNumeric (Text.ofString type.name) = false := by
  decide +kernel

theorem isLong_code : ∀ type : SqlType, Number.isLong type.code = false :=
  have hsmall : ∀ type : SqlType, type.code.natAbs < Nat.pow 10 4 := by decide
  fun type => Number.isLong_of_lt (hsmall type) (by decide)

end SqlType

namespace TypeCode
open Number

/-! ## Texts -/

/-- A written number is neither trimmed nor changed to upper case. -/
theorem key_intText (n : Int) :
    (Text.ofString (intText n)).trim.upper = Text.ofString (intText n) := by
  have hdigits : ∀ d < 10, Text.isBlank (.char (digitChar d)) = false ∧
      Text.upperChar (digitChar d) = [digitChar d] := by decide
  have hchar : ∀ c ∈ (intText n).toList, Text.isBlank (.char c) = false ∧
      Text.upperChar c = [c] := by
    intro c hc
    rcases mem_intText hc with rfl | ⟨d, hd, rfl⟩
    · decide
    · exact hdigits d hd
  have htrim : (Text.ofString (intText n)).trim = Text.ofString (intText n) := by
    refine Text.trim_eq_self fun l hl => ?_
    obtain ⟨c, hc, rfl⟩ := List.mem_map.1 hl
    exact (hchar c hc).1
  rw [htrim]
  exact Text.upper_ofChars fun c hc => (hchar c hc).2

/-- A text is read as the type whose name it is, or as the type of the number whose numeral it
is. -/
theorem ofValue_text_eq_ok_iff {t : Text} {r : TypeCode} : ofValue (.text t) = .ok r ↔
    (∃ type : SqlType, t.trim.upper = Text.ofString type.name ∧ r = .standard type) ∨
      ∃ n, IsNumeral t.trim.upper n ∧ r = ofCode n := by
  cases hlooks : looksNumeric t.trim.upper with
  | true =>
    have hread : ofValue (.text t) = .ok r ↔ ∃ n, readNumeral t.trim.upper = .ok n ∧
        r = ofCode n := by
      simp only [ofValue, hlooks, if_true]
      cases readNumeral t.trim.upper with
      | error fault => simp
      | ok n => simp [eq_comm]
    simp only [hread, readNumeral_eq_ok_iff]
    refine (or_iff_right ?_).symm
    rintro ⟨type, hname, -⟩
    rw [hname, SqlType.not_looksNumeric_name] at hlooks
    cases hlooks
  | false =>
    have hread : ofValue (.text t) = .ok r ↔ ∃ type, SqlType.ofName? t.trim.upper = some type ∧
        r = .standard type := by
      simp only [ofValue, hlooks, Bool.false_eq_true, if_false]
      cases SqlType.ofName? t.trim.upper with
      | none => simp
      | some type => simp [eq_comm]
    simp only [hread, SqlType.ofName?_eq_some_iff]
    refine (or_iff_left ?_).symm
    rintro ⟨n, hnumeral, -⟩
    rw [hnumeral.looksNumeric] at hlooks
    cases hlooks

theorem ofValue_name (type : SqlType) : ofValue (.text type.name) = .ok (.standard type) :=
  ofValue_text_eq_ok_iff.2 (.inl ⟨type, SqlType.key_name type, rfl⟩)

theorem ofValue_intText {n : Int} (h : isLong n = false) :
    ofValue (.text (intText n)) = .ok (ofCode n) := by
  refine ofValue_text_eq_ok_iff.2 (.inr ⟨n, ?_, rfl⟩)
  rw [key_intText]
  exact isNumeral_intText h

theorem ofValue_blanks {before after : Text} (hbefore : Text.Blanks before)
    (hafter : Text.Blanks after) (t : Text) (r : TypeCode) :
    ofValue (.text (before ++ t ++ after)) = .ok r ↔ ofValue (.text t) = .ok r := by
  rw [ofValue_text_eq_ok_iff, ofValue_text_eq_ok_iff, Text.trim_blanks_append_blanks hbefore hafter]

/-! ## What is read -/

/-- A type as it is read: a code that has a standard type is that type. -/
def Normal (r : TypeCode) : Prop := r = ofCode r.code

theorem code_ofCode (n : Int) : (ofCode n).code = n := by
  unfold ofCode
  cases h : SqlType.ofCode? n with
  | none => rfl
  | some type => exact (SqlType.ofCode?_eq_some_iff.1 h).symm

theorem ofCode_code (type : SqlType) : ofCode type.code = .standard type := by
  unfold ofCode
  rw [SqlType.ofCode?_eq_some_iff.2 rfl]

theorem normal_ofCode (n : Int) : (ofCode n).Normal := by
  rw [Normal, code_ofCode]

theorem normal_of_ofValue {v : Value} {r : TypeCode} (h : ofValue v = .ok r) : r.Normal := by
  cases v with
  | int n =>
    obtain rfl := Except.ok.inj h
    exact normal_ofCode n
  | text t =>
    rcases ofValue_text_eq_ok_iff.1 h with ⟨type, -, rfl⟩ | ⟨n, -, rfl⟩
    · exact (ofCode_code type).symm
    · exact normal_ofCode n
  | _ => cases h

theorem ofGiven_given {r : TypeCode} (h : r.Normal) : ofGiven r.given = .ok r := by
  cases r with
  | standard type => rfl
  | vendor n => exact congrArg Except.ok h.symm

/-- What stands in messages for a type is a spelling of it. -/
theorem ofValue_describe {v : Value} {r : TypeCode} (h : ofValue v = .ok r)
    (hv : v.hasLongNumber = false) : ofValue (.text r.describe) = .ok r := by
  cases r with
  | standard type => exact ofValue_name type
  | vendor n =>
    have hnormal : .vendor n = ofCode n := normal_of_ofValue h
    have hlong := asValue_ofValue h hv
    rw [asValue, Value.hasLongNumber] at hlong
    exact (ofValue_intText hlong).trans (congrArg Except.ok hnormal.symm)

theorem fault_of_ofValue {v : Value} {fault : TypeFault} (h : ofValue v = .error fault) :
    fault = .unknown v ∨
      ∃ t f, v = .text t ∧ readNumeral t.trim.upper = .error f ∧ fault = .numeral f := by
  unfold ofValue at h
  split at h
  · cases h
  · rename_i t
    dsimp only at h
    split at h
    · split at h
      · cases h
      · rename_i f hread
        exact .inr ⟨t, f, rfl, hread, (Except.error.inj h).symm⟩
    · split at h
      · cases h
      · exact .inl (Except.error.inj h).symm
  · exact .inl (Except.error.inj h).symm

/-- A number is read as the type with this code, and a text, when it is trimmed and in upper case,
as the type whose name or the number whose numeral it is; everything else is at fault, for being
unknown or for being an unreadable numeral. What is read is the standard type of its code if there
is one and the bare code if not, it is read again as itself, and so is its description unless it is
a number too long to be written. Blanks around a text change nothing, and a number is read as its
numeral is. So all spellings of one code have one Hive type and are improvised or not together. -/
theorem ofValue_spellings :
    (∀ v fault, ofValue v = .error fault → fault = .unknown v ∨
      ∃ t f, v = .text t ∧ readNumeral t.trim.upper = .error f ∧ fault = .numeral f) ∧
    (∀ n, ∃ r, ofValue (.int n) = .ok r ∧ r.code = n) ∧
    (∀ t r, ofValue (.text t) = .ok r ↔
      (∃ type : SqlType, t.trim.upper = Text.ofString type.name ∧ r = .standard type) ∨
        ∃ n, IsNumeral t.trim.upper n ∧ r = ofCode n) ∧
    (∀ v, (∀ n, v ≠ .int n) → (∀ t, v ≠ .text t) → ofValue v = .error (.unknown v)) ∧
    (∀ v r, ofValue v = .ok r →
      (∀ type : SqlType, r.code = type.code → r = .standard type) ∧
      ((∀ type : SqlType, r.code ≠ type.code) → r = .vendor r.code) ∧
      ofGiven r.given = .ok r ∧
      (v.hasLongNumber = false → ofValue (.text r.describe) = .ok r)) ∧
    (∀ before t after r, Text.Blanks before → Text.Blanks after →
      (ofValue (.text (before ++ t ++ after)) = .ok r ↔ ofValue (.text t) = .ok r)) ∧
    (∀ n, isLong n = false → ofValue (.text (intText n)) = ofValue (.int n)) ∧
    (∀ type : SqlType, ∀ v ∈ [Value.int type.code, .text (intText type.code), .text type.name],
      ofValue v = .ok (.standard type)) ∧
    ∀ v w r s, ofValue v = .ok r → ofValue w = .ok s → r.code = s.code →
      r.hiveType? = s.hiveType? ∧ r.isImprovised = s.isImprovised := by
  refine ⟨fun v fault => fault_of_ofValue, fun n => ⟨_, rfl, code_ofCode n⟩,
    fun t r => ofValue_text_eq_ok_iff, fun v hint htext => ?_, fun v r hread => ⟨?_, ?_, ?_, ?_⟩,
    fun before t after r hbefore hafter => ofValue_blanks hbefore hafter t r,
    fun n => ofValue_intText, fun type v hv => ?_, fun v w r s hv hw hcode => ?_⟩
  · cases v with
    | int n => exact absurd rfl (hint n)
    | text t => exact absurd rfl (htext t)
    | _ => rfl
  · intro type hcode
    rw [normal_of_ofValue hread, hcode, ofCode_code]
  · intro hvendor
    cases r with
    | standard type => exact absurd rfl (hvendor type)
    | vendor n => rfl
  · exact ofGiven_given (normal_of_ofValue hread)
  · exact ofValue_describe hread
  · have hcode : ofValue (.int type.code) = .ok (.standard type) :=
      congrArg Except.ok (ofCode_code type)
    simp only [List.mem_cons, List.not_mem_nil, or_false] at hv
    rcases hv with rfl | rfl | rfl
    · exact hcode
    · exact (ofValue_intText type.isLong_code).trans hcode
    · exact ofValue_name type
  · have hsame : r = s := by
      rw [normal_of_ofValue hv, normal_of_ofValue hw, hcode]
    rw [hsame]
    exact ⟨rfl, rfl⟩

end TypeCode

end HiveTable
