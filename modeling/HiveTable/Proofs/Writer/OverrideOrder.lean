import HiveTable.Proofs.Writer.Faults

/-!
# The order and the letter case of overrides are not seen

Two maps of overrides are `Alike` if they give the same types to the same columns, in any order
and any letter case. Writers that differ in such maps only cannot be told apart
(`outcome_respelled`), but for the column that is named when an override is for none of the
columns: the check of the overrides stops at the first such column, and which is the first
depends on the order. `Knowledge.Alike` is what such writers know, every call keeps it, and the
reports of a call agree on it.
-/

namespace HiveTable

/-! ## Maps -/

namespace NameMap
variable {α β : Type} {m m' : NameMap α}

/-- Every entry has one with the same value in the other map, under the same name but for letter
case. -/
def Within (m m' : NameMap α) : Prop :=
  ∀ e ∈ m.toList, ∃ e' ∈ m'.toList, Text.fold e'.1 = Text.fold e.1 ∧ e'.2 = e.2

instance [DecidableEq α] : Decidable (m.Within m') :=
  inferInstanceAs (Decidable (∀ e ∈ m.toList, ∃ e' ∈ m'.toList, _ ∧ _))

/-- The same values under the same names, in any order and any letter case. -/
structure Alike (m m' : NameMap α) : Prop where
  left : m.Within m'
  right : m'.Within m

theorem get?_eq_some_iff {name : Text} {v : α} :
    m.get? name = some v ↔ ∃ e ∈ m.toList, Text.fold e.1 = Text.fold name ∧ e.2 = v := by
  constructor
  · intro h
    rw [get?_eq] at h
    obtain ⟨e, he, rfl⟩ := Option.map_eq_some_iff.1 h
    have hsame := List.find?_some (p := fun e : Text × α => Listing.sameName e.1 name) he
    exact ⟨e, List.mem_of_find?_eq_some he, by simpa [Listing.sameName] using hsame, rfl⟩
  · rintro ⟨e, he, hfold, rfl⟩
    have hsame : Listing.sameName e.1 name = true := by simp [Listing.sameName, hfold]
    rw [← get?_congr m hsame, get?_of_mem he]

theorem Within.get? (h : m.Within m') {name : Text} {v : α} (hv : m.get? name = some v) :
    m'.get? name = some v := by
  obtain ⟨e, he, hfold, rfl⟩ := get?_eq_some_iff.1 hv
  obtain ⟨e', he', hfold', hvalue⟩ := h e he
  exact get?_eq_some_iff.2 ⟨e', he', hfold'.trans hfold, hvalue⟩

theorem Alike.get?_eq (h : m.Alike m') (name : Text) : m.get? name = m'.get? name :=
  Option.ext fun _ => ⟨h.left.get?, h.right.get?⟩

/-- If all names of a map are known, so are those of a map within it. -/
theorem Within.find?_names (h : m.Within m') {known : NameMap β}
    (hknown : m'.names.find? (!known.contains ·) = none) :
    m.names.find? (!known.contains ·) = none := by
  rw [List.find?_eq_none] at hknown ⊢
  intro name hname
  rw [names_eq] at hname
  obtain ⟨e, he, rfl⟩ := List.mem_map.1 hname
  obtain ⟨e', he', hfold, -⟩ := h e he
  have hsame : Listing.sameName e'.1 e.1 = true := by simp [Listing.sameName, hfold]
  rw [← contains_congr known hsame]
  exact hknown e'.1 (names_eq m' ▸ List.mem_map_of_mem he')

end NameMap

/-! ## Checks and types -/

/-- Both are refused for an override that is for none of the columns. -/
def BothUnresolved {α : Type} (x y : Except Failure α) : Prop :=
  ∃ column column', x = .error (.refused (.unresolvedOverride column)) ∧
    y = .error (.refused (.unresolvedOverride column'))

theorem checkOverrides_alike {m m' : NameMap Text} (h : m.Alike m') (names : List Value) :
    checkOverrides m names = checkOverrides m' names ∨
      BothUnresolved (checkOverrides m names) (checkOverrides m' names) := by
  unfold checkOverrides
  cases Entries.ofPairs? (names.map fun n => (n, ())) with
  | none => exact .inl rfl
  | some entries =>
    dsimp only
    cases NameMap.ofEntries entries with
    | error e => exact .inl rfl
    | ok known =>
      rw [ok_bind, ok_bind]
      cases hfind : m.names.find? (!known.contains ·) with
      | none =>
        rw [h.right.find?_names hfind]
        exact .inl rfl
      | some column =>
        cases hfind' : m'.names.find? (!known.contains ·) with
        | none =>
          rw [h.left.find?_names hfind'] at hfind
          cases hfind
        | some column' => exact .inr ⟨column, column', rfl, rfl⟩

namespace Definition
variable {d : Definition} {given : Value} {overrides : NameMap Text}

/-- The same definition with other overrides. -/
def withOverrides (d : Definition) (given : Value) (overrides : NameMap Text) : Definition :=
  { d with options := { d.options with overrides := given }, overrides := overrides }

@[simp] theorem inputTable_withOverrides :
    (d.withOverrides given overrides).inputTable = d.inputTable := rfl

@[simp] theorem outputTable_withOverrides :
    (d.withOverrides given overrides).outputTable = d.outputTable := rfl

@[simp] theorem database_withOverrides :
    (d.withOverrides given overrides).options.database = d.options.database := rfl

@[simp] theorem columns_withOverrides (types : Option (NameMap ColumnInfo)) :
    (d.withOverrides given overrides).columns types = d.columns types := rfl

@[simp] theorem checkPartition_withOverrides (columns : List Column) :
    (d.withOverrides given overrides).checkPartition columns = d.checkPartition columns := rfl

@[simp] theorem createTable_withOverrides (columns : List (Value × Text)) :
    (d.withOverrides given overrides).createTable columns = d.createTable columns := rfl

@[simp] theorem sourcePath_withOverrides :
    (d.withOverrides given overrides).sourcePath = d.sourcePath := rfl

@[simp] theorem loadData_withOverrides :
    (d.withOverrides given overrides).loadData = d.loadData := rfl

@[simp] theorem failureReport_withOverrides {α : Type} :
    ((d.withOverrides given overrides).failureReport : Failure → Report α) = d.failureReport := by
  funext f
  cases f <;> rfl

/-- The types of the columns are found by their names, whatever the order of the overrides. -/
theorem resolve_withOverrides (h : d.overrides.Alike overrides) (c : Column) :
    (d.withOverrides given overrides).resolve c = d.resolve c := by
  have hfind : ∀ name, overrides.get? name = d.overrides.get? name := fun name =>
    (h.get?_eq name).symm
  unfold resolve Resolution.ofColumn withOverrides
  simp only [hfind]

end Definition

/-! ## Reports -/

namespace Report
variable {α β : Type}

/-- The same report, or both refused for an override that is for none of the columns. -/
def Agrees (r s : Report α) : Prop := r = s ∨ BothUnresolved r.result s.result

theorem Agrees.lift {x y : Except Failure α} (h : x = y ∨ BothUnresolved x y) :
    Agrees (liftM x) (liftM y) :=
  h.imp_left fun hsame => by rw [hsame]

theorem Agrees.bind {r s : Report α} (h : r.Agrees s) (f : α → Report β) :
    (r >>= f).Agrees (s >>= f) := by
  rcases h with rfl | ⟨column, column', hr, hs⟩
  · exact .inl rfl
  · rw [bind_of_error hr, bind_of_error hs]
    exact .inr ⟨column, column', rfl, rfl⟩

theorem Agrees.bind_right (r : Report α) {f g : α → Report β} (h : ∀ a, (f a).Agrees (g a)) :
    (r >>= f).Agrees (r >>= g) := by
  cases hr : r.result with
  | error e =>
    rw [bind_of_error hr, bind_of_error hr]
    exact .inl rfl
  | ok a =>
    rw [bind_of_ok hr, bind_of_ok hr]
    rcases h a with hsame | hboth
    · rw [hsame]
      exact .inl rfl
    · exact .inr hboth

end Report

/-- A refusal that cannot be reported is not for what its table is. -/
theorem Event.text_failed {table : Value} {fault : Json.Fault} (h : table.json = .error fault)
    (request : Nat) (r : Refusal) (name : Nat → String) (duration : Number.Binary64) :
    (failed request table r).text name duration = .error (match fault with
      | .key => .wrongKind
      | .endless => .unusable) := by
  have hrecord : record (.text (failed request table r).name)
      ((failed request table r).payload name duration) =
      [(.text "event_type", .text "TABLE_DDL_GENERATION_FAILED"),
        (.text "request_id", .text (name request)), (.text "output_table", table),
        (.text "error", .text r.label), (.text "message", .text r.message)] := by
    simp [record, Entries.put, payload, fields, Value.same, Event.name, Text.ofString, Text.ofChars]
  unfold text
  rw [hrecord]
  simp only [logged, Value.json, Value.jsonEntries, Value.jsonKey, ok_bind, h]
  cases fault <;> rfl

/-- Which refusal is reported does not matter where it cannot be reported. -/
theorem Definition.failureReport_agrees {α : Type} (d : Definition) (column column' : Text) :
    (d.failureReport (.refused (.unresolvedOverride column)) : Report α).Agrees
      (d.failureReport (.refused (.unresolvedOverride column'))) := by
  cases hjson : d.outputTable.json with
  | ok s =>
    exact .inr ⟨column, column', failureReport_result ⟨s, hjson⟩ _,
      failureReport_result ⟨s, hjson⟩ _⟩
  | error fault =>
    left
    unfold failureReport Report.emit
    simp only [Event.text_failed hjson]
    rfl

namespace Knowledge
variable {k k' : Knowledge}

theorem createReport_of_unknown {e : Failure} (h : k.columns = .error e) :
    k.createReport = ⟨.error e, []⟩ := by
  rw [createReport_eq, h]
  rfl

/-- A check that fails ends all work for which the columns are known. -/
theorem createReport_of_unchecked {columns : List Column} {f : Failure}
    (hcolumns : k.columns = .ok columns) (hchecked : k.checked = .error f) :
    k.createReport = ⟨.error f, []⟩ := by
  rw [createReport_eq, hcolumns, hchecked]
  rfl

theorem generateReport_of_unchecked {columns : List Column} {f : Failure}
    (hcolumns : k.columns = .ok columns) (hchecked : k.checked = .error f) :
    k.generateReport = (do
      Report.emit (.started 0 k.definition.inputTable k.definition.outputTable
        k.definition.options.database)
      k.definition.failureReport f) := by
  have hrescued : k.statementsReport.rescue k.definition.failureReport =
      k.definition.failureReport f := by
    unfold statementsReport
    rw [createReport_of_unchecked hcolumns hchecked]
    rfl
  unfold generateReport
  simp only [hrescued, Definition.failureReport_bind]

/-- What writers know whose overrides are alike. -/
structure Alike (k k' : Knowledge) : Prop where
  definition : ∃ given overrides, k.definition.overrides.Alike overrides ∧
    k'.definition = k.definition.withOverrides given overrides
  columns : k.columns = k'.columns
  checked : k.checked = k'.checked ∨ BothUnresolved k.checked k'.checked

namespace Alike

theorem typeReport_agrees (h : k.Alike k') (c : Column) :
    (k.typeReport c).Agrees (k'.typeReport c) := by
  obtain ⟨given, overrides, halike, hd⟩ := h.definition
  unfold typeReport
  simp only [hd, Definition.resolve_withOverrides halike, Definition.outputTable_withOverrides]
  exact .bind (.lift h.checked) _

/-- The statements differ only if the columns are known and no check succeeds. -/
theorem createReport_cases (h : k.Alike k') : k.createReport = k'.createReport ∨
    ∃ columns, k.columns = .ok columns ∧ BothUnresolved k.checked k'.checked := by
  obtain ⟨given, overrides, halike, hd⟩ := h.definition
  cases hcolumns : k.columns with
  | error e =>
    left
    rw [createReport_of_unknown hcolumns, createReport_of_unknown (h.columns ▸ hcolumns)]
  | ok columns =>
    refine h.checked.imp (fun hchecked => ?_) fun hboth => ⟨columns, rfl, hboth⟩
    have htyped : k.typedReport = k'.typedReport := by
      refine typedReport_congr h.columns hchecked ?_ (fun c => ?_) fun l => ?_
      · rw [hd, Definition.outputTable_withOverrides]
      · rw [hd, Definition.resolve_withOverrides halike]
      · rw [hd, Definition.checkPartition_withOverrides]
    simp only [createReport, htyped, hd, Definition.createTable_withOverrides]

theorem createReport_agrees (h : k.Alike k') : k.createReport.Agrees k'.createReport := by
  refine h.createReport_cases.imp_right ?_
  rintro ⟨columns, hcolumns, column, column', hchecked, hchecked'⟩
  rw [createReport_of_unchecked hcolumns hchecked,
    createReport_of_unchecked (h.columns ▸ hcolumns) hchecked']
  exact ⟨column, column', rfl, rfl⟩

theorem generateReport_agrees (h : k.Alike k') : k.generateReport.Agrees k'.generateReport := by
  obtain ⟨given, overrides, halike, hd⟩ := h.definition
  rcases h.createReport_cases with hcreate | ⟨columns, hcolumns, column, column', hchecked, hchecked'⟩
  · left
    unfold generateReport statementsReport
    simp only [hcreate, h.columns, hd, Definition.inputTable_withOverrides,
      Definition.outputTable_withOverrides, Definition.database_withOverrides,
      Definition.loadData_withOverrides, Definition.failureReport_withOverrides]
  · rw [generateReport_of_unchecked hcolumns hchecked,
      generateReport_of_unchecked (h.columns ▸ hcolumns) hchecked']
    simp only [hd, Definition.inputTable_withOverrides, Definition.outputTable_withOverrides,
      Definition.database_withOverrides, Definition.failureReport_withOverrides]
    exact .bind_right _ fun _ => Definition.failureReport_agrees _ column column'

theorem report_agrees (h : k.Alike k') (call : Writer.Call) :
    (k.report call).Agrees (k'.report call) := by
  obtain ⟨given, overrides, -, hd⟩ := h.definition
  unfold report fieldsReport
  cases call with
  | setTypes entries => exact .inl rfl
  | describe => exact .bind (.lift (.inl h.columns)) _
  | validate => exact .bind (.lift h.checked) _
  | resolve c => exact .bind (h.typeReport_agrees c) _
  | createTable => exact .bind h.createReport_agrees _
  | loadData => exact .inl (by rw [hd, Definition.loadData_withOverrides])
  | sourcePath => exact .inl (by rw [hd, Definition.sourcePath_withOverrides])
  | generate => exact .bind h.generateReport_agrees _
  | generateFields => exact .bind (.bind h.generateReport_agrees _) _

end Alike

end Knowledge

/-! ## Writers -/

namespace Writer
variable {w w' : Writer}

/-- Writers whose overrides are alike and that keep the same. -/
theorem knowledge_alike {given : Value} {overrides : NameMap Text}
    (halike : w.definition.overrides.Alike overrides)
    (hdefinition : w'.definition = w.definition.withOverrides given overrides)
    (htypes : w.types = w'.types) (hcolumns : w.columns = w'.columns)
    (hvalidated : w.validated = w'.validated) : w.knowledge.Alike w'.knowledge := by
  have hknown : w.known = w'.known := by
    simp only [known, hcolumns, htypes, hdefinition, Definition.columns_withOverrides]
  refine ⟨⟨given, overrides, halike, hdefinition⟩, hknown, ?_⟩
  show w.checked = w'.checked ∨ BothUnresolved w.checked w'.checked
  unfold checked
  rw [hvalidated, hknown, hdefinition]
  cases w'.validated with
  | true => exact .inl rfl
  | false =>
    cases w'.known with
    | error e => exact .inl rfl
    | ok columns => exact checkOverrides_alike halike (columns.map (·.name))

/-- Every call keeps it that the overrides are alike. -/
theorem after_alike (h : w.knowledge.Alike w'.knowledge) (htypes : w.types = w'.types)
    (calls : List Call) : (w.after calls).knowledge.Alike (w'.after calls).knowledge := by
  refine (after_related (R := fun w w' => w.knowledge.Alike w'.knowledge ∧ w.types = w'.types) ?_ ?_
    ⟨h, htypes⟩ calls).1
  · rintro w w' v v' hv htypes hv' htypes' ⟨h, hsame⟩
    rw [hv, hv', htypes, htypes']
    exact ⟨h, hsame⟩
  · rintro w w' types ⟨h, -⟩
    obtain ⟨given, overrides, halike, hd⟩ := h.definition
    exact ⟨knowledge_alike halike hd rfl rfl rfl, rfl⟩

/-- Two texts of overrides give the same types to the same columns. Of writers made with the one and
the other, which keep the same otherwise, every call ends the same and with the same events, after
any run of calls on both; or both are refused for an override that is for none of the columns. -/
theorem outcome_respelled {text text' : Text} {overrides overrides' : NameMap Text}
    (hread : Overrides.parse text = .ok overrides)
    (hread' : Overrides.parse text' = .ok overrides') (halike : overrides.Alike overrides')
    (options : Options) {source : Option SchemaSource} {inputTable outputTable : Value}
    {withComments terminate : Bool} {clock : Moment} {d d' : Definition}
    (hmake : Definition.make { options with overrides := .text text } source inputTable outputTable
      withComments terminate clock = .ok d)
    (hmake' : Definition.make { options with overrides := .text text' } source inputTable
      outputTable withComments terminate clock = .ok d') (w : Writer) (calls : List Call)
    (call : Call) :
    let first := after { w with definition := d } calls
    let second := after { w with definition := d' } calls
    first.outcome call = second.outcome call ∨
      BothUnresolved (first.outcome call).1 (second.outcome call).1 := by
  intro first second
  have hoverrides : d.overrides = overrides :=
    Except.ok.inj ((Definition.make_overrides hmake).symm.trans (mapError_eq_ok.2 hread))
  have hoverrides' : d'.overrides = overrides' :=
    Except.ok.inj ((Definition.make_overrides hmake').symm.trans (mapError_eq_ok.2 hread'))
  have hdefinition : d' = d.withOverrides (.text text') overrides' := by
    rw [(Definition.make_eq_ok.1 hmake).2.2, (Definition.make_eq_ok.1 hmake').2.2, hoverrides']
    rfl
  have hknowledge : first.knowledge.Alike second.knowledge := by
    have hstart : ({ w with definition := d } : Writer).knowledge.Alike
        ({ w with definition := d' } : Writer).knowledge :=
      knowledge_alike (hoverrides ▸ halike) hdefinition rfl rfl rfl
    exact after_alike hstart rfl calls
  rw [outcome_eq_knowledge, outcome_eq_knowledge]
  exact (hknowledge.report_agrees call).imp_left fun h => by rw [h]

/-- Overrides in another order, with other letter case and other escapes. -/
theorem outcome_respelled_escapes :
    let source := SchemaSource.fixed [.text "id", .text "b"]
      [(.text "id", .value (.text "INTEGER")), (.text "b", .value (.text "BLOB"))]
    let clock : Moment := ⟨⟨2024, 1, 1⟩, 0, 0, 0, 0, none⟩
    let d : Definition := ⟨{ overrides := .text "id=STRING,B=BIN%41RY" }, some source, .text "in",
      .text "out", false, false, clock, NameMap.insert (NameMap.insert ∅ "id" "STRING") "B" "BINARY"⟩
    let d' : Definition := ⟨{ overrides := .text "b=BINARY,%49d=STRING" }, some source, .text "in",
      .text "out", false, false, clock, NameMap.insert (NameMap.insert ∅ "b" "BINARY") "Id" "STRING"⟩
    outcome { definition := d } .createTable = outcome { definition := d' } .createTable := by
  intro source clock d d'
  have hlist : (Overrides.parse "id=STRING,B=BIN%41RY").toOption.map NameMap.toList =
      some d.overrides.toList := by decide +kernel
  have hlist' : (Overrides.parse "b=BINARY,%49d=STRING").toOption.map NameMap.toList =
      some d'.overrides.toList := by decide +kernel
  have hread : ∀ {t : Text} {m : NameMap Text},
      (Overrides.parse t).toOption.map NameMap.toList = some m.toList → Overrides.parse t = .ok m := by
    intro t m h
    obtain ⟨m', hm', hsame⟩ := Option.map_eq_some_iff.1 h
    rw [ok_of_toOption hm', NameMap.ext_toList hsame]
  have halike : d.overrides.Alike d'.overrides := ⟨by decide +kernel, by decide +kernel⟩
  have hmake : Definition.make { overrides := .text "id=STRING,B=BIN%41RY" } (some source)
      (.text "in") (.text "out") false false clock = .ok d :=
    Definition.make_eq_ok.2 ⟨rfl, mapError_eq_ok.2 (hread hlist), rfl⟩
  have hmake' : Definition.make { overrides := .text "b=BINARY,%49d=STRING" } (some source)
      (.text "in") (.text "out") false false clock = .ok d' :=
    Definition.make_eq_ok.2 ⟨rfl, mapError_eq_ok.2 (hread hlist'), rfl⟩
  obtain ⟨reply, hok⟩ : ∃ reply, (outcome { definition := d } .createTable).1 = .ok reply :=
    ⟨_, rfl⟩
  refine (outcome_respelled (hread hlist) (hread hlist') halike {} hmake hmake' { definition := d } []
    .createTable).resolve_right ?_
  rintro ⟨_, _, hrefused, -⟩
  cases hok.symm.trans hrefused

end Writer

end HiveTable
