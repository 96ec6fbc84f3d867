import HiveTable.Column
import HiveTable.Proofs.Number.Numeral
import HiveTable.Proofs.Success

/-!
# Numbers that are too long to be written

A value without such a number has none after it is opened (`hasLongNumber_opened`), numerals
never read as one (`IsNumeral.not_isLong`), and so the type of a column shows one only if the info
of the column does (`ofInfo_type`).
-/

namespace HiveTable

namespace Value

mutual
theorem hasLongNumber_folded (around : List Nat) (v : Value) (h : v.hasLongNumber = false) :
    (folded around v).hasLongNumber = false := by
  cases v with
  | anchored a v =>
    rw [folded]
    split
    · rfl
    · exact hasLongNumber_folded around v h
  | list items => exact anyLong_folded around items h
  | mapping entries => exact anyLongEntry_folded around entries h
  | _ => exact h

theorem anyLong_folded (around : List Nat) (items : List Value) (h : anyLong items = false) :
    anyLong (foldedItems around items) = false := by
  cases items with
  | nil => rfl
  | cons v rest =>
    simp only [anyLong, Bool.or_eq_false_iff] at h
    simp only [foldedItems, anyLong, hasLongNumber_folded around v h.1,
      anyLong_folded around rest h.2, Bool.or_self]

theorem anyLongEntry_folded (around : List Nat) (entries : List (Value × Value))
    (h : anyLongEntry entries = false) : anyLongEntry (foldedEntries around entries) = false := by
  cases entries with
  | nil => rfl
  | cons e rest =>
    obtain ⟨k, v⟩ := e
    simp only [anyLongEntry, Bool.or_eq_false_iff] at h
    simp only [foldedEntries, anyLongEntry, h.1.1, hasLongNumber_folded around v h.1.2,
      anyLongEntry_folded around rest h.2, Bool.or_self]
end

variable {anchor : Nat} {whole : Value}

mutual
theorem hasLongNumber_unfolded (hwhole : whole.hasLongNumber = false) (around : List Nat)
    (v : Value) (h : v.hasLongNumber = false) :
    (unfolded anchor whole around v).hasLongNumber = false := by
  cases v with
  | enclosing a isMapping =>
    rw [unfolded]
    split
    · exact hasLongNumber_folded (a :: around) whole hwhole
    · rfl
  | anchored a v => exact hasLongNumber_unfolded hwhole (a :: around) v h
  | list items => exact anyLong_unfolded hwhole around items h
  | mapping entries => exact anyLongEntry_unfolded hwhole around entries h
  | _ => exact h

theorem anyLong_unfolded (hwhole : whole.hasLongNumber = false) (around : List Nat)
    (items : List Value) (h : anyLong items = false) :
    anyLong (unfoldedItems anchor whole around items) = false := by
  cases items with
  | nil => rfl
  | cons v rest =>
    simp only [anyLong, Bool.or_eq_false_iff] at h
    simp only [unfoldedItems, anyLong, hasLongNumber_unfolded hwhole around v h.1,
      anyLong_unfolded hwhole around rest h.2, Bool.or_self]

theorem anyLongEntry_unfolded (hwhole : whole.hasLongNumber = false) (around : List Nat)
    (entries : List (Value × Value)) (h : anyLongEntry entries = false) :
    anyLongEntry (unfoldedEntries anchor whole around entries) = false := by
  cases entries with
  | nil => rfl
  | cons e rest =>
    obtain ⟨k, v⟩ := e
    simp only [anyLongEntry, Bool.or_eq_false_iff] at h
    simp only [unfoldedEntries, anyLongEntry, h.1.1, hasLongNumber_unfolded hwhole around v h.1.2,
      anyLongEntry_unfolded hwhole around rest h.2, Bool.or_self]
end

theorem hasLongNumber_opened {v : Value} (h : v.hasLongNumber = false) :
    v.opened.hasLongNumber = false := by
  cases v with
  | anchored a whole =>
    have hwhole : whole.hasLongNumber = false := h
    exact hasLongNumber_unfolded hwhole [] whole hwhole
  | _ => exact h

/-- Nothing but a text equals a text in a document. -/
theorem eq_of_same_text {v : Value} {t : Text} (h : v.same (.text t) = true) : v = .text t := by
  cases v with
  | text u => simpa [same] using h
  | _ => simp [same, sameNumber, asInt?, anchor?] at h

/-- What stands under a key of a mapping. -/
theorem hasLongNumber_get? {key v : Value} {entries : Entries Value}
    (h : anyLongEntry entries = false) (hv : entries.get? key = some v) :
    v.hasLongNumber = false := by
  induction entries with
  | nil => cases hv
  | cons e rest ih =>
    obtain ⟨k, u⟩ := e
    simp only [anyLongEntry, Bool.or_eq_false_iff] at h
    unfold Entries.get? at hv
    split at hv
    · obtain rfl := Option.some.inj hv
      exact h.1.2
    · exact ih h.2 hv

end Value

namespace Number

theorem isLong_code (l : Letter) : isLong l.code = false := by
  have hlt : l.code < Nat.pow 10 7 := by
    cases l with
    | char c =>
      have hvalid : c.toNat < 0xD800 ∨ 0xDFFF < c.toNat ∧ c.toNat < 0x110000 := c.valid
      show c.toNat < 10000000
      omega
    | half n =>
      show 0xD800 + n.val < 10000000
      omega
  exact isLong_of_lt hlt (by decide)

end Number

/-! ## Types and columns -/

namespace TypeCode

theorem asValue_ofCode {n : Int} (h : Number.isLong n = false) :
    (ofCode n).asValue.hasLongNumber = false := by
  unfold ofCode
  cases SqlType.ofCode? n with
  | some type => rfl
  | none => exact h

theorem asValue_ofValue {v : Value} {type : TypeCode} (h : ofValue v = .ok type)
    (hv : v.hasLongNumber = false) : type.asValue.hasLongNumber = false := by
  unfold ofValue at h
  split at h
  · obtain rfl := Except.ok.inj h
    exact asValue_ofCode hv
  · dsimp only at h
    split at h
    · split at h
      · rename_i n hn
        obtain rfl := Except.ok.inj h
        exact asValue_ofCode (Number.readNumeral_eq_ok_iff.1 hn).not_isLong
      · cases h
    · split at h
      · obtain rfl := Except.ok.inj h
        rfl
      · cases h
  · cases h

end TypeCode

/-- Whether an info has a number that cannot be written. -/
def ColumnInfo.hasLongNumber : ColumnInfo → Bool
  | .column c => c.type.asValue.hasLongNumber
  | .value v => v.hasLongNumber

namespace Column

theorem make_spec {name type precision scale : Value} {c : Column}
    (h : make name type precision scale = .ok c) :
    c.name = name ∧ TypeCode.ofValue type = .ok c.type := by
  unfold make at h
  split at h
  · cases h
  obtain ⟨code, htype, h⟩ := bind_eq_ok.1 h
  obtain ⟨p, -, h⟩ := bind_eq_ok.1 h
  obtain ⟨s, -, h⟩ := bind_eq_ok.1 h
  obtain rfl := Except.ok.inj h
  exact ⟨rfl, mapError_eq_ok.1 htype⟩

theorem rename_spec {name : Text} {c c' : Column} (h : rename (.text name) c = .ok c') :
    c'.name = .text name ∧ c'.type = c.type := by
  unfold rename at h
  split at h
  · rename_i hsame
    obtain rfl := Except.ok.inj h
    exact ⟨Value.eq_of_same_text hsame, rfl⟩
  · split at h
    · obtain rfl := Except.ok.inj h
      exact ⟨rfl, rfl⟩
    · cases h

/-- The type of a column stands in one of the fields. -/
theorem ofFields_spec {name : Value} {fields : Entries Value} {c : Column}
    (h : ofFields name fields = .ok c) :
    ∃ type, (Value.anyLongEntry fields = false → type.hasLongNumber = false) ∧
      make name type ((fields.field? "precision").getD .null)
        ((fields.field? "scale").getD .null) = .ok c := by
  have hfield : ∀ (field : String) (v : Value), Value.anyLongEntry fields = false →
      v.hasLongNumber = false → ((fields.field? field).getD v).hasLongNumber = false := by
    intro field v hfields hv
    cases hfound : fields.field? field with
    | none => exact hv
    | some u => exact Value.hasLongNumber_get? hfields hfound
  refine ⟨(fields.field? "sql_type").getD ((fields.field? "type").getD .null), fun hfields => ?_, ?_⟩
  · exact hfield _ _ hfields (hfield _ _ hfields rfl)
  · unfold ofFields at h
    dsimp only at h
    split at h
    · cases h
    · exact h

/-- The column of a value has the name it is asked for, and its type is read from the value. -/
theorem ofInfo_value {name v : Value} {c : Column} (h : ofInfo name (.value v) = .ok c) :
    c.name = name ∧ (v.hasLongNumber = false → c.type.asValue.hasLongNumber = false) := by
  have hopened : v.hasLongNumber = false → v.opened.hasLongNumber = false :=
    Value.hasLongNumber_opened
  unfold ofInfo at h
  dsimp only at h
  -- All values but a mapping and a list are types themselves.
  split at h
  · rename_i fields heq
    rw [heq] at hopened
    obtain ⟨type, htype, hmake⟩ := ofFields_spec h
    obtain ⟨hname, hcode⟩ := make_spec hmake
    exact ⟨hname, fun hv => TypeCode.asValue_ofValue hcode (htype (hopened hv))⟩
  · cases h
  · rename_i type sizes heq
    rw [heq] at hopened
    obtain ⟨hname, hcode⟩ := make_spec h
    refine ⟨hname, fun hv => TypeCode.asValue_ofValue hcode ?_⟩
    exact (Bool.or_eq_false_iff.1 (hopened hv)).1
  · obtain ⟨hname, hcode⟩ := make_spec h
    exact ⟨hname, fun hv => TypeCode.asValue_ofValue hcode (hopened hv)⟩

theorem ofInfo_name {name : Text} {info : ColumnInfo} {c : Column}
    (h : ofInfo (.text name) info = .ok c) : c.name = .text name := by
  cases info with
  | column given => exact (rename_spec h).1
  | value v => exact (ofInfo_value h).1

theorem ofInfo_type {name : Text} {info : ColumnInfo} {c : Column}
    (h : ofInfo (.text name) info = .ok c) (hinfo : info.hasLongNumber = false) :
    c.type.asValue.hasLongNumber = false := by
  cases info with
  | column given =>
    rw [(rename_spec h).2]
    exact hinfo
  | value v => exact (ofInfo_value h).2 hinfo

end Column

end HiveTable
