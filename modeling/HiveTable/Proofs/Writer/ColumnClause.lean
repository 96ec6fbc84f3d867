import HiveTable.Proofs.Writer.Faults
import HiveTable.Proofs.Writer.Invariant
import HiveTable.Proofs.Writer.Result

/-!
# The columns of a statement

Between its opening and its remaining clauses the statement that creates a table lists the
columns of the writer, each with its name and its type. `Column.HasType` says which type that is,
and `create_columns` that every statement lists its columns so, after any walk of the writer.
-/

namespace HiveTable
open Number

/-! ## The type of a column -/

/-- A decimal has both sizes as they are given if neither is above 38. -/
def decimalText : Option Nat → Option Nat → String
  | some precision, some scale =>
    if precision ≤ 38 ∧ scale ≤ 38 then
      "DECIMAL(" ++ natText precision ++ ", " ++ natText scale ++ ")"
    else "DECIMAL(38, 38)"
  | _, _ => "DECIMAL"

namespace Column

/-- The text of a column's Hive type. -/
def standardText (c : Column) : HiveType → String
  | .decimal _ => decimalText c.precision c.scale
  | t => t.text

/-- A column has a name and, in the new table, the type that overrides it, or else its Hive
type. Without either it has no type. -/
structure HasType (c : Column) (overrides : NameMap Text) (name type : Text) : Prop where
  named : c.name = .text name
  overridden : ∀ e ∈ overrides.toList, Text.fold e.1 = Text.fold name → type = e.2
  standard : (∀ e ∈ overrides.toList, Text.fold e.1 ≠ Text.fold name) →
    ∃ t, c.type.hiveType? = some t ∧ type = c.standardText t
  nonempty : type ≠ []
  mapped : c.type.hiveType? = none →
    ∃ e ∈ overrides.toList, Text.fold e.1 = Text.fold name

theorem maxDigits_text : intText HiveType.maxDigits = "38" := by
  have hdigits : digits 38 = [3, 8] := by
    rw [digits, digits]
    rfl
  show natText 38 = "38"
  rw [natText, hdigits]
  rfl

theorem sizedDecimal_text (precision scale : Option Nat) :
    (HiveType.sizedDecimal (precision.map Int.ofNat) (scale.map Int.ofNat)).text =
      decimalText precision scale := by
  cases precision with
  | none => rfl
  | some p =>
    cases scale with
    | none => rfl
    | some s =>
      by_cases h : p ≤ 38 ∧ s ≤ 38
      · have hsmall : ¬ (Int.ofNat p > HiveType.maxDigits ∨ Int.ofNat s > HiveType.maxDigits) := by
          simp only [HiveType.maxDigits, Int.ofNat_eq_natCast]
          omega
        simp only [Option.map_some, HiveType.sizedDecimal, if_neg hsmall, decimalText, if_pos h,
          HiveType.text]
        rfl
      · have hlarge : Int.ofNat p > HiveType.maxDigits ∨ Int.ofNat s > HiveType.maxDigits := by
          simp only [HiveType.maxDigits, Int.ofNat_eq_natCast]
          omega
        simp only [Option.map_some, HiveType.sizedDecimal, if_pos hlarge, decimalText, if_neg h,
          HiveType.text, maxDigits_text]
        rfl

/-- The Hive type of a column is that of its source type, a decimal with the sizes of the
column. -/
theorem hiveType?_text {c : Column} {t : HiveType} (h : c.hiveType? = some t) :
    ∃ t', c.type.hiveType? = some t' ∧ t.text = c.standardText t' := by
  obtain ⟨t', ht', rfl⟩ := Option.map_eq_some_iff.1 h
  refine ⟨t', ht', ?_⟩
  cases t' with
  | decimal size => exact sizedDecimal_text c.precision c.scale
  | _ => rfl

theorem standardText_nonempty (c : Column) (t : HiveType) :
    Text.ofString (c.standardText t) ≠ [] := by
  have hdecimal : decimalText c.precision c.scale ≠ "" := by
    unfold decimalText
    split
    · split
      · simp
      · decide
    · decide
  have htext : c.standardText t ≠ "" := by
    cases t with
    | decimal size => exact hdecimal
    | _ => simp [standardText, HiveType.text]
  simpa [Text.ofString, Text.ofChars] using htext

end Column

/-- A type that is found for a column is the one that the column has. -/
theorem Definition.resolve_hasType {d : Definition} {c : Column} {name type : Text}
    (hoverrides : ∀ e ∈ d.overrides.toList, e.2 ≠ []) (hname : c.name = .text name)
    (h : d.resolve c = .ok type) : c.HasType d.overrides name type := by
  have hsame : ∀ a b : Text, Listing.sameName a b = true ↔ Text.fold a = Text.fold b := by
    simp [Listing.sameName]
  unfold resolve at h
  rw [Resolution.ofColumn_text hname hoverrides, NameMap.get?_eq] at h
  cases hfound : Listing.lookup? d.overrides.toList name with
  | some e =>
    rw [hfound] at h
    obtain rfl := Except.ok.inj h
    have he := List.mem_of_find?_eq_some hfound
    have hfold : Text.fold e.1 = Text.fold name :=
      (hsame _ _).1 (List.find?_some (p := fun e : Text × Text => Listing.sameName e.1 name) hfound)
    refine ⟨hname, fun e' he' hfold' => ?_, fun hnone => absurd hfold (hnone e he),
      hoverrides e he, fun _ => ⟨e, he, hfold⟩⟩
    -- No name is there twice, so an entry with the name is the one that was found.
    have hlookup : Listing.lookup? d.overrides.toList e'.1 =
        Listing.lookup? d.overrides.toList name := by
      simp only [Listing.lookup?, Listing.sameName, hfold']
    rw [Listing.lookup?_of_mem d.overrides.toList_distinct he', hfound] at hlookup
    rw [Option.some.inj hlookup]
    rfl
  | none =>
    have habsent : ∀ e ∈ d.overrides.toList, Text.fold e.1 ≠ Text.fold name := by
      intro e he
      rw [Ne, ← hsame, Listing.lookup?_eq_none_iff.1 hfound e he]
      exact Bool.false_ne_true
    rw [hfound] at h
    cases hhive : c.hiveType? with
    | none =>
      rw [hhive] at h
      cases h
    | some t =>
      rw [hhive] at h
      obtain rfl := Except.ok.inj h
      obtain ⟨t', ht', htext⟩ := Column.hiveType?_text hhive
      have htype : Text.ofString t.text = c.standardText t' := congrArg Text.ofString htext
      refine ⟨hname, fun e he hfold => absurd hfold (habsent e he), fun _ => ⟨t', ht', htype⟩,
        ?_, fun hnone => ?_⟩
      · exact fun hempty => c.standardText_nonempty t' (htype.symm.trans hempty)
      · rw [ht'] at hnone
        cases hnone

/-! ## The statement around its columns -/

namespace Definition

/-- The first words of the statement and the name of the table. -/
def opening (d : Definition) : Text :=
  "CREATE " ++ (if d.options.externalDir.isGiven then "EXTERNAL " else "") ++ "TABLE " ++
    (if d.options.failIfExists.isGiven then "" else "IF NOT EXISTS ") ++ d.tableName

/-- The clauses behind the columns. -/
def remainder (d : Definition) : Except Failure Text := do
  let row ← d.rowFormat
  let storage ← d.storage
  let location ← d.location
  return d.close (
    (if d.withComments then "COMMENT 'Imported by hiveddl on " ++ stamp d.clock ++ "' " else "") ++
    (if d.options.partitionKey.isGiven then
      "PARTITIONED BY (" ++ d.options.partitionKey.display ++ " STRING) "
    else "") ++ row ++ " " ++ storage ++ location)

theorem createTable_eq_ok {d : Definition} {columns : List (Value × Text)} {create : Text}
    (h : d.createTable columns = .ok create) : ∃ rest, d.remainder = .ok rest ∧
      create = d.opening ++ " ( " ++ columnClause columns ++ ") " ++ rest := by
  obtain ⟨row, hrow, h⟩ := bind_eq_ok.1 h
  obtain ⟨storage, hstorage, h⟩ := bind_eq_ok.1 h
  obtain ⟨location, hlocation, h⟩ := bind_eq_ok.1 h
  obtain rfl := Except.ok.inj h
  refine ⟨_, by rw [remainder, hrow, hstorage, hlocation]; rfl, ?_⟩
  unfold heading opening close
  cases d.terminate
  · simp only [Bool.false_eq_true, if_false, List.append_assoc]
  · simp only [if_true, List.append_assoc]

end Definition

/-! ## Statements after a walk -/

namespace Writer
variable {w w' : Writer}

theorem outcome_fst (w : Writer) (call : Call) :
    (w.outcome call).1 = (w.perform call.action).1 := rfl

theorem perform_return (w : Writer) {α : Type} (a : Action α) (f : α → Reply) :
    (w.perform (do return f (← a))).1 = (w.perform a).1.map f := by
  rw [perform_bind]
  rcases w.perform a with ⟨_ | x, w'⟩ <;> rfl

theorem outcome_describe (w : Writer) : (w.outcome .describe).1 = w.known.map .columns := by
  obtain ⟨names, infos, hdescribe⟩ := perform_describe_eq w
  rw [outcome_fst, Call.action, perform_return, hdescribe]

theorem outcome_resolve (w : Writer) (c : Column) :
    (w.outcome (.resolve c)).1 = (w.typeOf c).map .text := by
  obtain ⟨w', hresolve, -, -⟩ := perform_resolve_eq w c
  rw [outcome_fst, Call.action, perform_return, hresolve]

/-- A type that is found is found by the definition. -/
theorem resolve_of_typeOf {c : Column} {type : Text} (h : w.typeOf c = .ok type) :
    w.definition.resolve c = .ok type := by
  obtain ⟨_, -, h⟩ := bind_eq_ok.1 h
  obtain ⟨found, hfound, h⟩ := bind_eq_ok.1 h
  rw [hfound]
  cases hi : c.type.isImprovised with
  | false =>
    simp only [hi, Bool.false_eq_true, if_false] at h
    exact h
  | true =>
    simp only [hi, if_true] at h
    obtain ⟨_, -, h⟩ := bind_eq_ok.1 h
    exact h

/-- The names of known columns are texts if those of the columns that are kept are. -/
theorem known_names (hkept : ∀ columns, w.columns = some columns →
      ∀ c ∈ columns, ∃ name, c.name = .text name) {columns : List Column}
    (h : w.known = .ok columns) : ∀ c ∈ columns, ∃ name, c.name = .text name := by
  unfold known at h
  split at h
  · rename_i hcolumns
    obtain rfl := Except.ok.inj h
    exact hkept _ hcolumns
  · obtain ⟨schema, -, hdescribed⟩ := bind_eq_ok.1 h
    exact describeAll_names hdescribed

/-- A statement that a writer makes, alone or for a request, is made of its columns with the
types that it finds for them. -/
theorem createTable_of_outcome {create : Text}
    (h : (w.outcome .createTable).1 = .ok (.text create) ∨
      ∃ load, (w.outcome .generate).1 = .ok (.statements ⟨create, load⟩)) :
    ∃ typed : List (Column × Text), w.known = .ok (typed.map (·.1)) ∧
      (∀ p ∈ typed, w.typeOf p.1 = .ok p.2) ∧
      w.definition.createTable (Definition.named typed) = .ok create := by
  rcases h with h | ⟨load, h⟩
  · rw [outcome_fst, Call.action, perform_return] at h
    rcases hrun : w.perform createTable with ⟨_ | found, w'⟩ <;> rw [hrun] at h
    · cases h
    · obtain rfl := Reply.text.inj (Except.ok.inj h)
      exact perform_createTable_ok hrun
  · rw [outcome_fst, Call.action, perform_return] at h
    rcases hrun : w.perform generate with ⟨_ | found, w'⟩ <;> rw [hrun] at h
    · cases h
    · obtain rfl := Reply.statements.inj (Except.ok.inj h)
      obtain ⟨w₁, w₂, hcreate, hdefinition, hknown, hchecked⟩ := perform_generate_createTable hrun
      obtain ⟨typed, hcolumns, htyped, htable⟩ := perform_createTable_ok hcreate
      rw [hknown] at hcolumns
      rw [hdefinition] at htable
      refine ⟨typed, hcolumns, fun p hp => ?_, htable⟩
      rw [← typeOf_congr hdefinition hchecked]
      exact htyped p hp

/-- After any walk of a new writer, every statement that it makes, alone or for a request, lists
its columns between the opening and the remaining clauses: in order, each once, with the type that
it has by the overrides which were read when the definition was made. -/
theorem create_columns {options : Options} {source : Option SchemaSource}
    {inputTable outputTable : Value} {withComments terminate : Bool} {clock : Moment}
    {d : Definition}
    (hmake : Definition.make options source inputTable outputTable withComments terminate clock =
      .ok d) (steps : List Step) {create : Text}
    (hcreate : ((walk { definition := d } steps).outcome .createTable).1 = .ok (.text create) ∨
      ∃ load, ((walk { definition := d } steps).outcome .generate).1 =
        .ok (.statements ⟨create, load⟩)) :
    let w := walk { definition := d } steps
    ∃ (overrides : NameMap Text) (columns : List Column) (typed : List (Text × Text)) (rest : Text),
      Overrides.ofValue options.overrides = .ok overrides ∧
      (w.outcome .describe).1 = .ok (.columns columns) ∧
      List.Forall₂ (fun c p => c.HasType overrides p.1 p.2 ∧
        (w.outcome (.resolve c)).1 = .ok (.text p.2)) columns typed ∧
      w.definition.remainder = .ok rest ∧
      create = w.definition.opening ++ " ( " ++
        Text.listed (typed.map fun p => "`" ++ p.1 ++ "` " ++ p.2) ++ ") " ++ rest := by
  intro w
  have hread := Definition.make_overrides hmake
  have hoverrides : w.definition.overrides = d.overrides := walk_overrides _ steps
  have hnonempty : ∀ e ∈ w.definition.overrides.toList, e.2 ≠ [] := by
    rw [hoverrides]
    exact Overrides.ofValue_nonempty hread
  have hkept : ∀ columns, w.columns = some columns → ∀ c ∈ columns, ∃ name, c.name = .text name :=
    walk_keeps invariant_names (fun _ _ _ h => h) steps _ (by rintro _ ⟨⟩)
  obtain ⟨typed, hknown, htyped, htable⟩ := createTable_of_outcome hcreate
  obtain ⟨rest, hrest, hstatement⟩ := Definition.createTable_eq_ok htable
  refine ⟨d.overrides, typed.map (·.1), typed.map fun p => (p.1.name.display, p.2), rest, hread, ?_,
    ?_, hrest, ?_⟩
  · rw [outcome_describe, hknown]
    rfl
  · rw [List.forall₂_map_left_iff, List.forall₂_map_right_iff, List.forall₂_same]
    intro p hp
    obtain ⟨name, hname⟩ := known_names hkept hknown p.1 (List.mem_map_of_mem hp)
    have hresolve := resolve_of_typeOf (htyped p hp)
    refine ⟨?_, by rw [outcome_resolve, htyped p hp]; rfl⟩
    rw [← hoverrides, hname]
    exact Definition.resolve_hasType hnonempty hname hresolve
  · rw [hstatement, Definition.columnClause, Definition.named, List.map_map, List.map_map]
    rfl

/-- A column without a Hive type has an override, on a writer whose options were changed. -/
theorem create_columns_blob :
    let clock : Moment := ⟨⟨2024, 1, 1⟩, 0, 0, 0, 0, none⟩
    let source := SchemaSource.fixed [.text "id", .text "b"]
      [(.text "id", .value (.text "INTEGER")), (.text "b", .value (.text "BLOB"))]
    let d : Definition := ⟨{ overrides := .text "B=BINARY" }, some source, .text "in",
      .text "out", false, false, clock, NameMap.insert ∅ "B" "BINARY"⟩
    let w := walk { definition := d }
      [.call .describe, .setOption (.text "fail_if_table_exists") (.bool true)]
    ∃ (create rest : Text) (columns : List Column) (typed : List (Text × Text)),
      (w.outcome .createTable).1 = .ok (.text create) ∧
      List.Forall₂ (fun c p => c.HasType d.overrides p.1 p.2) columns typed ∧
      create = "CREATE TABLE `out`" ++ " ( " ++
        Text.listed (typed.map fun p => "`" ++ p.1 ++ "` " ++ p.2) ++ ") " ++ rest := by
  intro clock source d w
  have hlist : (Overrides.ofValue d.options.overrides).toOption.map NameMap.toList =
      some d.overrides.toList := by decide +kernel
  have hmake : Definition.make d.options (some source) (.text "in") (.text "out") false false
      clock = .ok d := by
    cases hread : Overrides.ofValue d.options.overrides with
    | error e =>
      rw [hread] at hlist
      cases hlist
    | ok overrides =>
      rw [hread] at hlist
      obtain rfl : overrides = d.overrides := NameMap.ext_toList (Option.some.inj hlist)
      exact bind_eq_ok.2 ⟨_, hread, rfl⟩
  obtain ⟨create, hcreate⟩ : ∃ create, (w.outcome .createTable).1 = .ok (.text create) :=
    ⟨_, rfl⟩
  obtain ⟨overrides, columns, typed, rest, hread, -, htyped, -, hstatement⟩ :=
    create_columns hmake _ (.inl hcreate)
  obtain rfl := Except.ok.inj ((Definition.make_overrides hmake).symm.trans hread)
  exact ⟨create, rest, columns, typed, hcreate, htyped.imp fun _ _ h => h.1, hstatement⟩

end Writer

end HiveTable
