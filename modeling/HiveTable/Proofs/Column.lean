import HiveTable.Proofs.SqlType

/-!
# Every shape in which a column is described

A type, a precision and a scale make a column under a name, or they do not. They may stand one
after the other in a list, under their names in a mapping, or in a column that was made of them
before; a type may also stand alone. All of these give the same column or none:
`ofInfo_shapes`. What a column consists of makes the column again, also under another name
(`make_parts`), so a column that is handed on is not checked in vain but never fails the check.
-/

namespace HiveTable.Column

/-! ## Making a column -/

/-- The value that gives a size. -/
def sizeValue (size : Option Nat) : Value := size.elim .null fun n => .int n

theorem size_eq_ok {name v : Value} {field : SizeField} {n : Option Nat} :
    size name field v = .ok n ↔ v = sizeValue n := by
  constructor
  · intro h
    unfold size at h
    split at h
    · obtain rfl := Except.ok.inj h
      rfl
    · split at h
      · rename_i hnonneg
        obtain rfl := Except.ok.inj h
        exact congrArg Value.int (Int.toNat_of_nonneg hnonneg).symm
      · cases h
    · cases h
  · rintro rfl
    cases n with
    | none => rfl
    | some n =>
      have hnonneg : 0 ≤ (n : Int) := Int.natCast_nonneg n
      simp [size, sizeValue, hnonneg]

/-- A column is made of a name that is given, a readable type and two sizes that are numbers from
zero on, or null. -/
theorem make_eq_ok {name type precision scale : Value} {c : Column} :
    make name type precision scale = .ok c ↔
      name.isGiven = true ∧ name = c.name ∧ TypeCode.ofValue type = .ok c.type ∧
        precision = sizeValue c.precision ∧ scale = sizeValue c.scale := by
  constructor
  · intro h
    unfold make at h
    split at h
    · cases h
    rename_i hgiven
    obtain ⟨code, htype, h⟩ := bind_eq_ok.1 h
    obtain ⟨p, hprecision, h⟩ := bind_eq_ok.1 h
    obtain ⟨s, hscale, h⟩ := bind_eq_ok.1 h
    obtain rfl := Except.ok.inj h
    exact ⟨by simpa using hgiven, rfl, mapError_eq_ok.1 htype, size_eq_ok.1 hprecision,
      size_eq_ok.1 hscale⟩
  · rintro ⟨hgiven, rfl, htype, hprecision, hscale⟩
    unfold make
    rw [hgiven, htype, size_eq_ok.2 hprecision, size_eq_ok.2 hscale]
    rfl

/-- The name is only checked for being given. -/
theorem make_name {name other : Text} (hname : name ≠ []) {type precision scale : Value}
    {c : Column} (h : make (.text other) type precision scale = .ok c) :
    make (.text name) type precision scale = .ok { c with name := .text name } := by
  obtain ⟨-, -, hparts⟩ := make_eq_ok.1 h
  exact make_eq_ok.2 ⟨Value.isGiven_text.2 hname, rfl, hparts⟩

theorem rename_text {name : Text} (h : (Value.text name).isGiven = true) (c : Column) :
    rename (.text name) c = .ok { c with name := .text name } := by
  unfold rename
  rw [h]
  split
  · rename_i hsame
    rw [← Value.eq_of_same_text hsame]
  · rfl

/-- What a made column consists of makes the column again, under any name. -/
theorem make_parts {name other : Text} (hname : name ≠ []) {type precision scale : Value}
    {c : Column} (h : make (.text other) type precision scale = .ok c) :
    make (.text name) (.int c.type.code) (sizeValue c.precision) (sizeValue c.scale) =
      rename (.text name) c := by
  obtain ⟨-, -, htype, -, -⟩ := make_eq_ok.1 h
  have hnormal : c.type = TypeCode.ofCode c.type.code := TypeCode.normal_of_ofValue htype
  rw [rename_text (Value.isGiven_text.2 hname)]
  exact make_eq_ok.2 ⟨Value.isGiven_text.2 hname, rfl, congrArg Except.ok hnormal.symm, rfl, rfl⟩

/-! ## Shapes -/

/-- A value in which a type, a precision and a scale stand. What is left out counts as null, and
the type of a mapping stands under the second name only if there is none under the first. -/
inductive Shape (type precision scale : Value) : Value → Prop
  | list {v : Value} {sizes : List Value} (h : v.opened = .list (type :: sizes))
      (hprecision : sizes.getD 0 .null = precision) (hscale : sizes.getD 1 .null = scale) :
      Shape type precision scale v
  | mapping {v : Value} {fields : Entries Value} (h : v.opened = .mapping fields)
      (htype : fields.field? "sql_type" = some type ∨
        fields.field? "sql_type" = none ∧ fields.field? "type" = some type)
      (hprecision : (fields.field? "precision").getD .null = precision)
      (hscale : (fields.field? "scale").getD .null = scale) :
      Shape type precision scale v

variable {type precision scale : Value}

theorem Shape.items (type precision scale : Value) (more : List Value) :
    Shape type precision scale (.list (type :: precision :: scale :: more)) :=
  .list rfl rfl rfl

theorem Shape.fields (type precision scale : Value) :
    Shape type precision scale (.mapping
      [(.text "type", type), (.text "precision", precision), (.text "scale", scale)]) := by
  have hkeys : Text.ofString "type" ≠ "sql_type" ∧ Text.ofString "precision" ≠ "sql_type" ∧
      Text.ofString "scale" ≠ "sql_type" ∧ Text.ofString "type" ≠ "precision" ∧
      Text.ofString "type" ≠ "scale" ∧ Text.ofString "precision" ≠ "scale" := by decide +kernel
  refine .mapping rfl (.inr ⟨?_, ?_⟩) ?_ ?_
  all_goals simp [Entries.field?, Entries.get?, Value.same, hkeys]

/-- A mapping fails on a type that is null before the type is read. Else it differs in nothing. -/
theorem ofFields_eq_ok {name : Value} {fields : Entries Value} {c : Column}
    (htype : (fields.field? "sql_type").getD ((fields.field? "type").getD .null) = type) :
    ofFields name fields = .ok c ↔ make name type ((fields.field? "precision").getD .null)
      ((fields.field? "scale").getD .null) = .ok c := by
  unfold ofFields
  dsimp only
  rw [htype]
  split
  · refine Iff.intro (fun h => by cases h) fun h => ?_
    obtain ⟨-, -, hread, -⟩ := make_eq_ok.1 h
    cases hread
  · rfl

theorem Shape.ofInfo_eq_ok {name v : Value} {c : Column} (h : Shape type precision scale v) :
    ofInfo name (.value v) = .ok c ↔ make name type precision scale = .ok c := by
  unfold ofInfo
  dsimp only
  cases h with
  | list hopened hprecision hscale =>
    rw [hopened, ← hprecision, ← hscale]
  | @mapping fields hopened htype hprecision hscale =>
    have hfirst : (fields.field? "sql_type").getD ((fields.field? "type").getD .null) = type := by
      rcases htype with hfound | ⟨hnone, hfound⟩
      · rw [hfound, Option.getD_some]
      · rw [hnone, hfound, Option.getD_none, Option.getD_some]
    rw [hopened]
    dsimp only
    rw [ofFields_eq_ok hfirst, hprecision, hscale]

/-- A type that is no collection may stand alone. -/
theorem ofInfo_alone (name : Value) {type : Value} (h : type.isKey = true) :
    ofInfo name (.value type) = ofInfo name (.value (.list [type])) := by
  cases type with
  | list _ | mapping _ | anchored _ _ | enclosing _ _ => cases h
  | _ => rfl

/-- A type, a precision and a scale give the same column under a name in all shapes, or they give
none in any of them: not as they are, not in a list or a mapping, and, since then there is no
column of them under any other name, not as a column either. A type alone is as good as the list of
it. Of a column that is made, the type is the standard one of its code if there is one, the sizes
are the given ones, both from zero on or null, and what it consists of makes it again under every
name. It describes itself. -/
theorem ofInfo_shapes {name : Text} (hname : name ≠ []) (type precision scale : Value) :
    ((∃ c, make (.text name) type precision scale = .ok c ∧
        (∀ v, Shape type precision scale v → ofInfo (.text name) (.value v) = .ok c) ∧
        ∀ other : Text, other ≠ [] → ∃ d, make (.text other) type precision scale = .ok d ∧
          ofInfo (.text name) (.column d) = .ok c) ∨
      (∃ fault, make (.text name) type precision scale = .error fault) ∧
        (∀ v, Shape type precision scale v →
          ∃ fault, ofInfo (.text name) (.value v) = .error fault) ∧
        ∀ other : Text, other ≠ [] →
          ∃ fault, make (.text other) type precision scale = .error fault) ∧
    (type.isKey = true →
      ofInfo (.text name) (.value type) = ofInfo (.text name) (.value (.list [type]))) ∧
    ∀ c, make (.text name) type precision scale = .ok c →
      (∀ t : SqlType, c.type.code = t.code → c.type = .standard t) ∧
      precision = sizeValue c.precision ∧ scale = sizeValue c.scale ∧
      (∀ other : Text, other ≠ [] → make (.text other) (.int c.type.code)
        (sizeValue c.precision) (sizeValue c.scale) = ofInfo (.text other) (.column c)) ∧
      c.name = .text name ∧ ofInfo c.name (.column c) = .ok c := by
  refine ⟨?_, ofInfo_alone _, fun c hc => ?_⟩
  · cases hmake : make (.text name) type precision scale with
    | ok c =>
      refine .inl ⟨c, rfl, fun v hv => hv.ofInfo_eq_ok.2 hmake, fun other hother => ?_⟩
      obtain ⟨-, hcname, -⟩ := make_eq_ok.1 hmake
      refine ⟨_, make_name hother hmake, ?_⟩
      show rename (.text name) _ = .ok c
      rw [rename_text (Value.isGiven_text.2 hname), hcname]
    | error fault =>
      refine .inr ⟨⟨fault, rfl⟩, fun v hv => ?_, fun other hother => ?_⟩
      · cases hinfo : ofInfo (.text name) (.value v) with
        | error fault' => exact ⟨fault', rfl⟩
        | ok c => exact nomatch hmake.symm.trans (hv.ofInfo_eq_ok.1 hinfo)
      · cases hother' : make (.text other) type precision scale with
        | error fault' => exact ⟨fault', rfl⟩
        | ok d => exact nomatch hmake.symm.trans (make_name hname hother')
  · obtain ⟨-, hcname, htype, hprecision, hscale⟩ := make_eq_ok.1 hc
    refine ⟨fun t hcode => ?_, hprecision, hscale, fun other hother => make_parts hother hc,
      hcname.symm, ?_⟩
    · have hnormal : c.type = TypeCode.ofCode c.type.code := TypeCode.normal_of_ofValue htype
      rw [hnormal, hcode, TypeCode.ofCode_code]
    · show rename c.name c = .ok c
      rw [← hcname, rename_text (Value.isGiven_text.2 hname), hcname]

/-- A decimal column is described by a mapping, by a list or by a column of another name. -/
theorem ofInfo_shapes_decimal :
    let amount : Text := "amount"
    let spec : Value := .mapping [(.text "type", .text "decimal"), (.text "precision", .int 10),
      (.text "scale", .int 2)]
    amount ≠ [] ∧ ∃ c d, ofInfo (.text amount) (.value spec) = .ok c ∧
      ofInfo (.text amount) (.value (.list [.text "decimal", .int 10, .int 2])) = .ok c ∧
      make (.text "price") (.text "decimal") (.int 10) (.int 2) = .ok d ∧
      ofInfo (.text amount) (.column d) = .ok c ∧ c.type = .standard .decimal ∧
      c.precision = some 10 ∧ c.scale = some 2 := by
  intro amount spec
  have hname : amount ≠ [] := by decide +kernel
  have hother : Text.ofString "price" ≠ [] := by decide +kernel
  have hmake : make (.text amount) (.text "decimal") (.int 10) (.int 2) =
      .ok ⟨.text amount, .standard .decimal, some 10, some 2⟩ := by
    have htype : TypeCode.ofValue (.text "decimal") = .ok (.standard .decimal) :=
      TypeCode.ofValue_text_eq_ok_iff.2 (.inl ⟨.decimal, by decide +kernel, rfl⟩)
    exact make_eq_ok.2 ⟨Value.isGiven_text.2 hname, rfl, htype, rfl, rfl⟩
  obtain ⟨c, hc, hshapes, hcolumns⟩ | ⟨⟨fault, hfault⟩, -⟩ :=
    (ofInfo_shapes hname (.text "decimal") (.int 10) (.int 2)).1
  · obtain ⟨d, hd, hsame⟩ := hcolumns _ hother
    obtain rfl := Except.ok.inj (hc.symm.trans hmake)
    exact ⟨hname, _, d, hshapes spec (.fields _ _ _), hshapes _ (.items _ _ _ []), hd, hsame, rfl,
      rfl, rfl⟩
  · exact nomatch hfault.symm.trans hmake

end HiveTable.Column
