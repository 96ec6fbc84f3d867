import Mathlib.Data.Set.List
import HiveTable.Proofs.Request.Columns
import HiveTable.Proofs.Request.Options
import HiveTable.Proofs.Writer.Faults

/-!
# Requests that can only be refused

What is made of a request depends on values of which nothing is known beforehand. If they have the
types that are declared for them, the request is answered or refused (`answer_of_declared`): tables
and names of columns are texts where they count as given, the options are a mapping with texts for
keys, those of their values that are joined to a path, folded or parsed are texts or null, and no
number is too long to be written. `Refusable` is closed under the constructs that the checks of a
request are made of, so there is one lemma for each check.
-/

namespace HiveTable
variable {α β : Type}

/-- Work that ends well, with `P`, or is refused. -/
def Refusable (P : α → Prop) (x : Except Failure α) : Prop :=
  (∃ a, x = .ok a ∧ P a) ∨ ∃ r, x = .error (.refused r)

namespace Refusable
variable {P : α → Prop} {Q : β → Prop}

protected theorem ok {a : α} (h : P a) : Refusable P (.ok a) := .inl ⟨a, rfl, h⟩

protected theorem refused (r : Refusal) : Refusable P (.error (.refused r)) := .inr ⟨r, rfl⟩

protected theorem bind {x : Except Failure α} {f : α → Except Failure β} (hx : Refusable P x)
    (hf : ∀ a, P a → Refusable Q (f a)) : Refusable Q (x >>= f) := by
  rcases hx with ⟨a, rfl, ha⟩ | ⟨r, rfl⟩
  · exact hf a ha
  · exact .refused r

theorem mono {x : Except Failure α} {P' : α → Prop} (hx : Refusable P x) (h : ∀ a, P a → P' a) :
    Refusable P' x := by
  rcases hx with ⟨a, rfl, ha⟩ | ⟨r, rfl⟩
  · exact .ok (h a ha)
  · exact .refused r

end Refusable

namespace Value

/-- A text, unless it counts as not given. -/
def IsGivenText (v : Value) : Prop := v.isGiven = true → ∃ t, v = .text t

theorem hasLongNumber_of_mem {items : List Value} (h : anyLong items = false) :
    ∀ v ∈ items, v.hasLongNumber = false := by
  induction items with
  | nil => simp
  | cons v rest ih =>
    simp only [anyLong, Bool.or_eq_false_iff] at h
    exact List.forall_mem_cons.2 ⟨h.1, ih h.2⟩

theorem hasLongNumber_of_mem_entries {entries : List (Value × Value)}
    (h : anyLongEntry entries = false) : ∀ e ∈ entries, e.2.hasLongNumber = false := by
  induction entries with
  | nil => simp
  | cons e rest ih =>
    obtain ⟨k, v⟩ := e
    simp only [anyLongEntry, Bool.or_eq_false_iff] at h
    exact List.forall_mem_cons.2 ⟨h.1.2, ih h.2⟩

end Value

namespace Options

/-! ## The options -/

/-- What the value of an option must be for what is done with it. -/
def Accepts (name : String) (v : Value) : Prop :=
  (name = "warehouse_dir" → ∃ t, v = .text t) ∧
    (name ∈ ["target_dir", "hive_database", "external_table_dir", "compression_codec",
      "map_column_hive"] → v.IsOptionalText)

/-- Options whose values are what they must be. -/
structure Declared (o : Options) : Prop where
  targetDir : o.targetDir.IsOptionalText
  warehouseDir : ∃ t, o.warehouseDir = .text t
  database : o.database.IsOptionalText
  externalDir : o.externalDir.IsOptionalText
  codec : o.codec.IsOptionalText
  overrides : o.overrides.IsOptionalText
  partitionKey : o.partitionKey.hasLongNumber = false
  partitionValue : o.partitionValue.hasLongNumber = false
  fieldDelimiter : o.fieldDelimiter.hasLongNumber = false
  lineDelimiter : o.lineDelimiter.hasLongNumber = false

theorem declared_default : Declared {} :=
  ⟨.inl rfl, ⟨_, rfl⟩, .inl rfl, .inl rfl, .inl rfl, .inl rfl, rfl, rfl, rfl, rfl⟩

theorem Declared.set {o : Options} (h : o.Declared) {name : String} {v : Value}
    (haccepts : Accepts name v) (hv : v.hasLongNumber = false) : (o.set name v).Declared := by
  obtain ⟨hwarehouse, htext⟩ := haccepts
  unfold Options.set
  split
  · exact { h with targetDir := htext (by simp) }
  · exact { h with warehouseDir := hwarehouse rfl }
  · exact { h with database := htext (by simp) }
  · exact { h with externalDir := htext (by simp) }
  · exact { h with partitionKey := hv }
  · exact { h with partitionValue := hv }
  · exact { h with codec := htext (by simp) }
  · exact { h with overrides := htext (by simp) }
  · exact { h with fieldDelimiter := hv }
  · exact { h with lineDelimiter := hv }
  · exact { h with }
  · exact { h with }
  · exact h

theorem texts?_eq_some_iff {values : List Value} {texts : List Text} :
    texts? values = some texts ↔ values = texts.map .text := by
  induction values generalizing texts with
  | nil => cases texts <;> simp [texts?]
  | cons v rest ih =>
    cases v with
    | text t => cases texts <;> simp [texts?, ih, and_comm]
    | _ => cases texts <;> simp [texts?]

/-- Texts are known names or refused. -/
theorem checkNames_refusable {known : String → Bool} (refusal : List Text → Refusal)
    {names : List Value} (h : ∀ v ∈ names, ∃ t, v = .text t) :
    Refusable (fun _ => ∀ v ∈ names, ∃ s, v = .text (Text.ofString s) ∧ known s = true)
      (checkNames known refusal names) := by
  have htexts : ∀ l ⊆ names, texts? l ≠ none := by
    intro l hl
    have hrange : l ∈ Set.range (List.map Value.text) := by
      rw [Set.range_list_map]
      exact fun v hv => (h v (hl hv)).imp fun _ => Eq.symm
    obtain ⟨texts, rfl⟩ := hrange
    rw [texts?_eq_some_iff.2 rfl]
    exact nofun
  cases hchecked : checkNames known refusal names with
  | ok => exact .ok (checkNames_eq_ok.1 hchecked)
  | error f =>
    unfold checkNames at hchecked
    split at hchecked
    · cases hchecked
    · split at hchecked
      · obtain rfl := Except.error.inj hchecked
        exact .refused _
      · rename_i hnone
        exact absurd hnone (htexts _ (List.filter_subset_self names))

/-- Known options are assigned one after the other. -/
theorem assign_declared {entries : Entries Value}
    (h : ∀ e ∈ entries, ∃ s, e.1 = .text (Text.ofString s) ∧ isOption s = true ∧
      Accepts s e.2 ∧ e.2.hasLongNumber = false) :
    ∃ o, assign entries = .ok o ∧ o.Declared := by
  refine foldlM_succeeds (f := assignEntry) (fun e he o ho => ?_) declared_default
  obtain ⟨s, hname, hoption, haccepts, hshown⟩ := h e he
  exact ⟨o.set s e.2, assignEntry_eq_ok.2 ⟨s, hname, hoption, rfl⟩, ho.set haccepts hshown⟩

theorem textual_ok {v : Value} (h : v.hasLongNumber = false) :
    ∃ v', textual v = .ok v' ∧ v'.IsOptionalText := by
  unfold textual
  split
  · exact ⟨.null, rfl, .inl rfl⟩
  · exact ⟨.text v.display, by rw [h]; rfl, .inr ⟨_, rfl⟩⟩

theorem check_refusable {o : Options} (h : o.codec.IsOptionalText) :
    Refusable (· = o) o.check := by
  have hcodec : o.codec.isGiven = true → Refusable (fun _ => True) (Codec.ofValue o.codec) := by
    intro hgiven
    obtain ⟨t, ht⟩ := h.text_of_given hgiven
    unfold Codec.ofValue
    rw [hgiven, ht]
    dsimp only
    cases Codec.ofText? t with
    | none => exact .refused _
    | some c => exact .ok trivial
  unfold check
  dsimp only
  split
  · exact .refused _
  · split
    · exact .refused _
    · split
      · rename_i hgiven
        exact .bind (hcodec hgiven) fun _ _ => .ok rfl
      · exact .ok rfl

/-- Options of their declared types are refused, or taken as they are but for the partition, which
becomes text. -/
theorem ofValue_refusable {v : Value} (hv : v.hasLongNumber = false)
    (h : v.isGiven = true → ∃ entries : Entries Value, v.opened = .mapping entries ∧
      ∀ e ∈ entries, ∃ t, e.1 = .text t ∧ ∀ s, t = Text.ofString s → Accepts s e.2) :
    Refusable (fun o => o.Declared ∧ o.partitionKey.IsOptionalText) (ofValue v) := by
  obtain ⟨entries, hentries, htyped⟩ : ∃ entries : Entries Value, entriesOf v = .ok entries ∧
      ∀ e ∈ entries, (∃ t, e.1 = .text t ∧ ∀ s, t = Text.ofString s → Accepts s e.2) ∧
        e.2.hasLongNumber = false := by
    unfold entriesOf
    cases hgiven : v.isGiven with
    | false => exact ⟨[], rfl, by simp⟩
    | true =>
      obtain ⟨entries, hopened, hentries⟩ := h hgiven
      have hshown := Value.hasLongNumber_opened hv
      rw [hopened] at hshown ⊢
      exact ⟨entries, rfl, fun e he =>
        ⟨hentries e he, Value.hasLongNumber_of_mem_entries hshown e he⟩⟩
  have hnames : ∀ k ∈ entries.map (·.1), ∃ t, k = .text t := by
    intro k hk
    obtain ⟨e, he, rfl⟩ := List.mem_map.1 hk
    obtain ⟨t, ht, -⟩ := (htyped e he).1
    exact ⟨t, ht⟩
  unfold ofValue
  rw [hentries, ok_bind]
  refine .bind (checkNames_refusable _ hnames) fun _ hknown => ?_
  have hentry : ∀ e ∈ entries, ∃ s, e.1 = .text (Text.ofString s) ∧ isOption s = true ∧
      Accepts s e.2 ∧ e.2.hasLongNumber = false := by
    intro e he
    obtain ⟨⟨t, ht, haccepts⟩, hshown⟩ := htyped e he
    obtain ⟨s, hs, hoption⟩ := hknown e.1 (List.mem_map_of_mem he)
    obtain rfl : t = Text.ofString s := Value.text.inj (ht.symm.trans hs)
    exact ⟨s, hs, hoption, haccepts s rfl, hshown⟩
  obtain ⟨o, ho, hdeclared⟩ := assign_declared hentry
  obtain ⟨key, hkey, hkeyText⟩ := textual_ok hdeclared.partitionKey
  obtain ⟨value, hvalue, hvalueText⟩ := textual_ok hdeclared.partitionValue
  rw [ho, ok_bind, hkey, ok_bind, hvalue, ok_bind]
  have hshown : ∀ v : Value, v.IsOptionalText → v.hasLongNumber = false := by
    rintro _ (rfl | ⟨t, rfl⟩) <;> rfl
  refine (check_refusable (o := { o with partitionKey := key, partitionValue := value })
    hdeclared.codec).mono ?_
  rintro _ rfl
  exact ⟨{ hdeclared with
    partitionKey := hshown key hkeyText, partitionValue := hshown value hvalueText }, hkeyText⟩

end Options

/-! ## The columns -/

theorem Catalog.ofSpecs_refusable {table : Value} (h : table.isKey = true) (specs : List Value) :
    Refusable (fun catalog => ofSpecs table (.list specs) = .ok catalog)
      ((ofSpecs table (.list specs)).mapError fun
        | .column fault => .refused (.column fault)
        | f => f) := by
  have hcolumn : ∀ spec, FailsOnly (fun f => ∃ fault, f = .column fault) (columnOf spec) := by
    intro spec
    unfold columnOf
    split
    · dsimp only
      split
      · exact .mapError (.any _) fun fault _ => ⟨fault, rfl⟩
      · exact .error ⟨_, rfl⟩
    · exact .error ⟨_, rfl⟩
  have hfails : FailsOnly (fun f => ∃ fault, f = .column fault) (ofSpecs table (.list specs)) := by
    refine .bind (.ok specs) fun items => .bind (.mapM hcolumn items) fun columns => ?_
    rw [h]
    exact .ok _
  cases hresult : ofSpecs table (.list specs) with
  | error f =>
    obtain ⟨fault, rfl⟩ := hfails f hresult
    exact .refused _
  | ok catalog => exact .ok rfl

theorem Overrides.ofValue_refusable {v : Value} (h : v.IsOptionalText) :
    Refusable (fun _ => True) (ofValue v) := by
  rcases h with rfl | ⟨t, rfl⟩
  · exact .ok trivial
  · unfold ofValue
    dsimp only
    cases parse t with
    | error r => exact .refused r
    | ok m => exact .ok trivial

namespace Definition
variable {d : Definition} {catalog : Catalog}

theorem make_refusable {options : Options} (hoptions : options.overrides.IsOptionalText)
    (source : Option SchemaSource) (inputTable : Value) {outputTable : Value}
    (houtput : outputTable.isGiven = true) (withComments terminate : Bool) (clock : Moment) :
    Refusable (fun d => d.source = source ∧ d.inputTable = inputTable ∧
        d.outputTable = outputTable ∧ d.options = options ∧
        ∀ e ∈ d.overrides.toList, e.2 ≠ [])
      (make options source inputTable outputTable withComments terminate clock) := by
  have hread : Refusable (fun m => ∀ e ∈ m.toList, e.2 ≠ [])
      (Overrides.ofValue options.overrides) := by
    rcases Overrides.ofValue_refusable hoptions with ⟨m, hm, -⟩ | ⟨r, hr⟩
    · exact .inl ⟨m, hm, Overrides.ofValue_nonempty hm⟩
    · exact .inr ⟨r, hr⟩
  unfold make
  rw [houtput]
  exact .bind hread fun m hm => .ok ⟨rfl, rfl, rfl, rfl, hm⟩

/-- A definition over a catalog has its declared types if the values it is made of have. -/
theorem declared_of_catalog (hsource : d.source = some catalog.source)
    (htable : d.inputTable = catalog.table) (hgiven : d.inputTable.isGiven = true)
    (hkey : catalog.table.isKey = true) (hnamed : catalog.Named)
    (hinput : ∃ t, d.inputTable = .text t) (houtput : ∃ t, d.outputTable = .text t)
    (hoptions : d.options.Declared) (hpartition : d.options.partitionKey.IsOptionalText)
    (hinfos : ∀ c ∈ catalog.columns, c.type.asValue.hasLongNumber = false)
    (hcount : catalog.columns.length ≤ maxItems) : d.Declared none := by
  obtain ⟨m, hinfo, hschema, -, hmem⟩ := schema_of_catalog hsource htable hgiven hkey hnamed
  obtain ⟨hnames, hcolumnInfo⟩ := schema_known hschema
  exact {
    inputTable := .inr hinput
    outputTable := houtput
    warehouseDir := hoptions.warehouseDir
    targetDir := hoptions.targetDir
    database := hoptions.database
    externalDir := hoptions.externalDir
    partitionKey := hpartition
    codec := hoptions.codec
    source := by
      intro _ source hsource' _
      obtain rfl := Option.some.inj (hsource.symm.trans hsource')
      refine ⟨catalog.columns.map (·.name.display), _, ?_, htable ▸ Catalog.columnInfo_table hinfo,
        fun e he => ?_⟩
      · rw [htable, Catalog.columnNames_table hkey, hnamed.map_name]
      · obtain ⟨p, -, rfl⟩ := List.mem_map.1 he
        exact ⟨p.1, rfl⟩
    infos := by
      intro e he
      rw [hcolumnInfo] at he
      obtain ⟨p, hp, hvalue⟩ := NameMap.exists_mem_of_mem_toList he
      obtain ⟨q, hq, rfl⟩ := List.mem_map.1 hp
      rw [← hvalue]
      exact hinfos q.2 (hmem q hq)
    count := by
      rw [hnames, List.length_map]
      exact hcount }

/-! ## The work -/

theorem delimiterFault_refused {v : Value} (h : v.hasLongNumber = false) {f : Failure}
    (hf : delimiterFault v = some f) : ∃ r, f = .refused r := by
  have hcode : ∀ n : Int, Number.isLong n = false → ∀ fault, Delimiter.ofCode n = .error fault →
      (Refusal.delimiter fault).failure = .refused (.delimiter fault) := by
    intro n hn fault hfault
    unfold Delimiter.ofCode at hfault
    split at hfault
    · cases hfault
    · obtain rfl := Except.error.inj hfault
      simp [Refusal.failure, Refusal.shown, Value.hasLongNumber, hn]
  have hfault : ∀ fault, Delimiter.escape v = .error fault →
      (Refusal.delimiter fault).failure = .refused (.delimiter fault) := by
    intro fault hescape
    unfold Delimiter.escape at hescape
    split at hescape
    · exact hcode _ (Number.isLong_code _) fault hescape
    · obtain rfl := Except.error.inj hescape
      rfl
    · exact hcode _ h fault hescape
    · obtain rfl := Except.error.inj hescape
      simp [Refusal.failure, Refusal.shown, h]
  unfold delimiterFault at hf
  cases hescape : Delimiter.escape v with
  | ok s =>
    rw [hescape] at hf
    cases hf
  | error fault =>
    rw [hescape] at hf
    obtain rfl := Option.some.inj hf
    exact ⟨_, hfault fault hescape⟩

theorem faults_refused {types : Option (NameMap ColumnInfo)}
    (hfield : d.options.fieldDelimiter.hasLongNumber = false)
    (hline : d.options.lineDelimiter.hasLongNumber = false) {f : Failure}
    (hf : some f ∈ d.faults types) : ∃ r, f = .refused r := by
  unfold faults at hf
  simp only [List.mem_append, List.mem_cons, List.mem_map, List.not_mem_nil, or_false] at hf
  rcases hf with ((((hf | ⟨name, -, hf⟩) | ⟨column, -, hf⟩) | ⟨name, -, hf⟩) | ⟨name, -, hf⟩) |
    hf | hf
  · unfold schemaFault at hf
    split at hf
    · exact ⟨_, Option.some.inj hf⟩
    · cases hf
  · unfold infoFault at hf
    split at hf
    · exact ⟨_, (Option.some.inj hf).symm⟩
    · split at hf
      · exact ⟨_, (Option.some.inj hf).symm⟩
      · cases hf
  · unfold overrideFault at hf
    split at hf
    · cases hf
    · exact ⟨_, (Option.some.inj hf).symm⟩
  · unfold partitionFault at hf
    split at hf
    · split at hf
      · exact ⟨_, (Option.some.inj hf).symm⟩
      · cases hf
    · cases hf
  · unfold typeFault at hf
    split at hf
    · split at hf
      · cases hf
      · exact ⟨_, (Option.some.inj hf).symm⟩
    · cases hf
  · exact delimiterFault_refused hfield hf.symm
  · exact delimiterFault_refused hline hf.symm

/-- Work on values of the declared types ends well or is refused. -/
theorem generateReport_refusable (h : d.Declared none) (hoptions : d.options.Declared)
    (hoverrides : ∀ e ∈ d.overrides.toList, e.2 ≠ []) :
    Refusable (fun _ => True) (d.generateReport none).result := by
  have hends := generateReport_ends h hoverrides
  unfold Report.Ends at hends
  cases hfirst : (d.faults none).findSome? id with
  | none =>
    rw [hfirst] at hends
    obtain ⟨statements, hok, -⟩ := hends
    exact .inl ⟨statements, hok, trivial⟩
  | some f =>
    rw [hfirst] at hends
    obtain ⟨x, hx, rfl⟩ := List.exists_of_findSome?_eq_some hfirst
    obtain ⟨r, rfl⟩ := faults_refused hoptions.fieldDelimiter hoptions.lineDelimiter hx
    exact .inr ⟨r, hends⟩

end Definition

namespace Request

/-! ## Requests -/

/-- A request whose values have the types that are declared for them, as far as something is done
with them that only these allow. -/
structure Declared (request : Value) : Prop where
  shown : request.hasLongNumber = false
  keys : ∀ fields, request.opened = .mapping fields → ∀ e ∈ fields, ∃ t, e.1 = .text t
  inputTable : (field request "input_table").IsGivenText
  outputTable : (field request "output_table").IsGivenText
  columns : ∀ spec ∈ specs request, (Catalog.specName spec).IsGivenText
  count : (specs request).length ≤ maxItems
  options : (field request "options").isGiven = true → ∃ entries : Entries Value,
    (field request "options").opened = .mapping entries ∧
      ∀ e ∈ entries, ∃ t, e.1 = .text t ∧ ∀ s, t = Text.ofString s → Options.Accepts s e.2

/-- A request that is written down, its options too, has names for keys. -/
theorem declared_entries {l options : List (String × Value)} {columns : List Value}
    (hcolumns : l.lookup "columns" = some (.list columns))
    (hoptions : (l.lookup "options").getD .null = entries options)
    (hshown : (entries l).hasLongNumber = false)
    (hinput : ((l.lookup "input_table").getD .null).IsGivenText)
    (houtput : ((l.lookup "output_table").getD .null).IsGivenText)
    (hnames : ∀ spec ∈ columns, (Catalog.specName spec).IsGivenText)
    (hcount : columns.length ≤ maxItems)
    (haccepts : ∀ f ∈ options, Options.Accepts f.1 f.2) : Declared (entries l) := by
  have hspecs : specs (entries l) = columns := by
    rw [specs, field_entries, hcolumns]
    rfl
  exact {
    shown := hshown
    keys := by
      intro fields h e he
      obtain rfl := Value.mapping.inj h
      obtain ⟨f, -, rfl⟩ := List.mem_map.1 he
      exact ⟨f.1, rfl⟩
    inputTable := field_entries l _ ▸ hinput
    outputTable := field_entries l _ ▸ houtput
    columns := hspecs ▸ hnames
    count := hspecs ▸ hcount
    options := by
      rw [field_entries, hoptions]
      refine fun _ => ⟨_, rfl, fun e he => ?_⟩
      obtain ⟨f, hf, rfl⟩ := List.mem_map.1 he
      refine ⟨f.1, rfl, fun s hs => ?_⟩
      have hname : f.1 = s := by simpa using congrArg Text.string? hs
      exact hname ▸ haccepts f hf }

theorem hasLongNumber_field {request : Value} (h : request.hasLongNumber = false) (name : String) :
    (field request name).hasLongNumber = false := by
  have hopened := Value.hasLongNumber_opened h
  unfold field
  split
  · rename_i fields heq
    rw [heq] at hopened
    cases hfound : Entries.field? fields name with
    | none => rfl
    | some v => exact Value.hasLongNumber_get? hopened hfound
  · rfl

theorem hasLongNumber_spec {request : Value} (h : request.hasLongNumber = false) :
    ∀ spec ∈ specs request, spec.hasLongNumber = false := by
  have hopened := Value.hasLongNumber_opened (hasLongNumber_field h "columns")
  unfold specs
  split
  · rename_i items heq
    rw [heq] at hopened
    exact Value.hasLongNumber_of_mem hopened
  · simp

/-- A request of the declared types makes a definition of the declared types, or is refused. -/
theorem definition_refusable (clock : Moment) {request : Value} (h : Declared request) :
    Refusable (fun d => d.Declared none ∧ d.options.Declared ∧ ∀ e ∈ d.overrides.toList, e.2 ≠ [])
      (definition clock request) := by
  unfold definition
  split
  case h_2 => exact .refused _
  rename_i fields hopened
  have hfield : ∀ name, (Entries.field? fields name).getD .null = field request name := by
    intro name
    unfold field
    rw [hopened]
  simp only [hfield]
  have hkeys : ∀ k ∈ fields.map (·.1), ∃ t, k = .text t := by
    intro k hk
    obtain ⟨e, he, rfl⟩ := List.mem_map.1 hk
    exact h.keys fields hopened e he
  refine .bind (Options.checkNames_refusable _ hkeys) fun _ _ => ?_
  split
  · exact .refused _
  rename_i hnot
  have hgiven : (field request "input_table").isGiven = true := by simpa using hnot
  obtain ⟨table, htable⟩ := h.inputTable hgiven
  have hkey : (field request "input_table").isKey = true := by rw [htable]; rfl
  have houtput : ∀ v, v = (if (field request "output_table").isGiven then
      field request "output_table" else field request "input_table") →
      v.isGiven = true ∧ ∃ t, v = .text t := by
    rintro _ rfl
    split
    · rename_i houtput
      exact ⟨houtput, h.outputTable houtput⟩
    · exact ⟨hgiven, table, htable⟩
  split
  case h_3 => exact .refused _
  all_goals
    rename_i hlist
    refine .bind (P := fun l => l = .list (specs request)) (.ok ?_) fun _ hspecs => ?_
    · unfold specs
      rw [hlist]
    rw [hspecs]
    refine .bind (Catalog.ofSpecs_refusable hkey _) fun catalog hcatalog => ?_
    refine .bind (Options.ofValue_refusable (hasLongNumber_field h.shown _) h.options)
      fun options hoptions => ?_
    refine (Definition.make_refusable hoptions.1.overrides (some catalog.source) _
      (houtput _ rfl).1 _ _ clock).mono ?_
    rintro d ⟨hsource, hinput, hout, rfl, hoverrides⟩
    obtain ⟨hcatalogTable, -, hcolumns⟩ := Catalog.ofSpecs_ok hcatalog
    have hcolumn : ∀ c ∈ catalog.columns, (c.name.isGiven = true ∧ ∃ name, c.name = .text name) ∧
        c.type.asValue.hasLongNumber = false := by
      intro c hc
      obtain ⟨spec, hspec, hcolumn⟩ := exists_of_mem_mapM hcolumns hc
      obtain ⟨hcgiven, hname, hinfo⟩ := Catalog.columnOf_ok hcolumn
      refine ⟨⟨hcgiven, hname ▸ h.columns spec hspec (hname ▸ hcgiven)⟩, ?_⟩
      exact (Column.ofInfo_value hinfo).2 (hasLongNumber_spec h.shown spec hspec)
    have hcount : catalog.columns.length ≤ maxItems := by
      rw [← (mapM_eq_ok.1 hcolumns).length_eq]
      exact h.count
    refine ⟨Definition.declared_of_catalog hsource ?_ ?_ ?_ ?_ ?_ ?_ hoptions.1 hoptions.2
      (fun c hc => (hcolumn c hc).2) hcount, hoptions.1, hoverrides⟩
    · rw [hinput, hcatalogTable]
    · rw [hinput, hgiven]
    · rw [hcatalogTable, hkey]
    · exact fun c hc => (hcolumn c hc).1
    · exact ⟨table, hinput.trans htable⟩
    · exact hout ▸ (houtput _ rfl).2

/-- A request of the declared types is answered or refused. -/
theorem answer_of_declared (clock : Moment) {request : Value} (h : Declared request) :
    Refusable (fun _ => True) (answer clock request).1 := by
  rcases definition_refusable clock h with ⟨d, hd, hdeclared, hoptions, hoverrides⟩ | ⟨r, hr⟩
  · obtain ⟨w', hrun, -⟩ := Writer.generate_follows _ (Writer.coherent_new d)
    rw [answer_of_definition hd, hrun]
    rcases Definition.generateReport_refusable hdeclared hoptions hoverrides with
      ⟨statements, hok, -⟩ | ⟨r, hr⟩
    · rw [hok]
      exact .ok trivial
    · rw [hr]
      exact .refused r
  · rw [answer, hr]
    exact .refused r

end Request

end HiveTable
