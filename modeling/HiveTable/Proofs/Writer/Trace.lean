import HiveTable.Proofs.Success
import HiveTable.Proofs.Writer.Coherence

/-!
# What a request reports on the way

The types of the columns are found one after the other, and each column whose type is improvised
is reported when its type was found. `createReport_ok` says what the work reports when it ends
well, and `createReport_refused` where it can be refused and what was reported until then.
-/

namespace HiveTable

/-! ## Events that are reported -/

/-- An event without a text is no refusal. -/
theorem Event.text_not_refused {e : Event} {name : Nat → String} {duration : Number.Binary64}
    {r : Refusal} : e.text name duration ≠ .error (.refused r) := by
  unfold Event.text Event.logged
  cases (Value.mapping (record (.text e.name) (e.payload name duration))).json with
  | ok s => rintro ⟨⟩
  | error fault => cases fault <;> rintro ⟨⟩

/-- A failure is reported as the refusal that it is of. -/
theorem Refusal.eq_of_failure {r r' : Refusal} (h : r.failure = .refused r') : r = r' := by
  unfold Refusal.failure at h
  split at h
  · cases h
  · exact Failure.refused.inj h

namespace Report

theorem emit_eq_ok {e : Event} {u : Unit} {events : List Event}
    (h : emit e = ⟨.ok u, events⟩) : events = [e] := by
  unfold emit at h
  split at h
  · exact (mk_eq.1 h).2.symm
  · cases (mk_eq.1 h).1

theorem emit_not_refused {e : Event} {r : Refusal} {events : List Event} :
    emit e ≠ ⟨.error (.refused r), events⟩ := by
  intro h
  unfold emit at h
  split at h
  · cases (mk_eq.1 h).1
  · rename_i hf
    obtain rfl := Except.error.inj (mk_eq.1 h).1
    exact Event.text_not_refused hf

end Report

namespace Definition
variable {d : Definition} {types : Option (NameMap ColumnInfo)}

/-! ## The types of the columns -/

/-- What is reported of a column whose type was found: dates, times and general numbers are
held less exactly, whatever the type is that was found for them. -/
def warning? (d : Definition) (p : Column × Text) : Option Event :=
  match p.1.type with
  | .standard .date | .standard .time | .standard .timestamp | .standard .numeric =>
    some (.improvised d.outputTable p.1.name p.1.type.describe p.2)
  | _ => none

/-- What is reported of columns whose types were found. -/
def warnings (d : Definition) (typed : List (Column × Text)) : List Event :=
  typed.filterMap d.warning?

/-- Columns with the types that were found for them. -/
def Resolved (d : Definition) (typed : List (Column × Text)) : Prop :=
  ∀ p ∈ typed, d.resolve p.1 = .ok p.2

theorem warning?_eq (p : Column × Text) :
    d.warning? p = if p.1.type.isImprovised then
      some (.improvised d.outputTable p.1.name p.1.type.describe p.2) else none := by
  unfold warning?
  cases p.1.type with
  | vendor code => rfl
  | standard t => cases t <;> rfl

theorem warnings_cons (p : Column × Text) (typed : List (Column × Text)) :
    d.warnings (p :: typed) = d.warnings [p] ++ d.warnings typed := by
  rw [warnings, ← List.singleton_append, List.filterMap_append]
  rfl

theorem resolveReport_ok {c : Column} {type : Text} {events : List Event}
    (h : d.resolveReport types c = ⟨.ok type, events⟩) :
    d.resolve c = .ok type ∧ events = d.warnings [(c, type)] := by
  obtain ⟨_, -, h⟩ := Report.lift_bind_eq_ok_iff.1 h
  obtain ⟨found, hresolve, h⟩ := Report.lift_bind_eq_ok_iff.1 h
  by_cases himprovised : c.type.isImprovised = true
  · simp only [himprovised, if_true] at h
    obtain ⟨_, reported, rest, hemit, hpure, rfl⟩ := Report.bind_eq_ok_iff.1 h
    obtain ⟨hok, rfl⟩ := Report.pure_eq_iff.1 hpure
    obtain rfl := Except.ok.inj hok
    refine ⟨hresolve, ?_⟩
    rw [Report.emit_eq_ok hemit]
    simp [warnings, warning?_eq, himprovised]
  · simp only [himprovised] at h
    obtain ⟨hok, rfl⟩ := Report.pure_eq_iff.1 h
    obtain rfl := Except.ok.inj hok
    exact ⟨hresolve, by simp [warnings, warning?_eq, himprovised]⟩

theorem resolveReport_refused (hvalid : d.validate types = .ok ()) {c : Column} {r : Refusal}
    {events : List Event} (h : d.resolveReport types c = ⟨.error (.refused r), events⟩) :
    d.resolve c = .error (.refused r) ∧ events = [] := by
  rcases Report.lift_bind_eq_error_iff.1 h with ⟨hinvalid, -⟩ | ⟨_, -, h⟩
  · rw [hvalid] at hinvalid
    cases hinvalid
  rcases Report.lift_bind_eq_error_iff.1 h with hresolve | ⟨found, -, h⟩
  · exact hresolve
  by_cases himprovised : c.type.isImprovised = true
  · simp only [himprovised, if_true] at h
    rcases Report.bind_eq_error_iff.1 h with hemit | ⟨_, _, _, -, hpure, -⟩
    · exact absurd hemit Report.emit_not_refused
    · cases (Report.pure_eq_iff.1 hpure).1
  · simp only [himprovised] at h
    cases (Report.pure_eq_iff.1 h).1

/-- The names of columns with the types found for them. -/
def named (typed : List (Column × Text)) : List (Value × Text) := typed.map fun p => (p.1.name, p.2)

/-- A loop over the columns that ends well finds the types of all. -/
theorem resolveAll_ok {columns : List Column} {found : List (Value × Text)} {events : List Event}
    (h : (columns.mapM fun c => do return (c.name, ← d.resolveReport types c)) =
      (⟨.ok found, events⟩ : Report (List (Value × Text)))) :
    ∃ typed, typed.map (·.1) = columns ∧ d.Resolved typed ∧ found = named typed ∧
      events = d.warnings typed := by
  induction columns generalizing found events with
  | nil =>
    obtain ⟨hok, rfl⟩ := Report.pure_eq_iff.1 h
    obtain rfl := Except.ok.inj hok
    exact ⟨[], rfl, by simp [Resolved], rfl, rfl⟩
  | cons c columns ih =>
    rw [List.mapM_cons] at h
    obtain ⟨first, _, _, hfirst, hothers, rfl⟩ := Report.bind_eq_ok_iff.1 h
    obtain ⟨type, _, _, htype, hname, rfl⟩ := Report.bind_eq_ok_iff.1 hfirst
    obtain ⟨hok, rfl⟩ := Report.pure_eq_iff.1 hname
    obtain rfl := Except.ok.inj hok
    obtain ⟨rest, _, _, hrest, hcons, rfl⟩ := Report.bind_eq_ok_iff.1 hothers
    obtain ⟨hok, rfl⟩ := Report.pure_eq_iff.1 hcons
    obtain rfl := Except.ok.inj hok
    obtain ⟨hresolve, rfl⟩ := resolveReport_ok htype
    obtain ⟨typed, rfl, hresolved, rfl, rfl⟩ := ih hrest
    refine ⟨(c, type) :: typed, rfl, List.forall_mem_cons.2 ⟨hresolve, hresolved⟩, rfl, ?_⟩
    rw [warnings_cons _ typed, List.append_nil, List.append_nil]

/-- A loop over the columns that is refused stops at the first column without a type. -/
theorem resolveAll_refused (hvalid : d.validate types = .ok ()) {columns : List Column}
    {r : Refusal} {events : List Event}
    (h : (columns.mapM fun c => do return (c.name, ← d.resolveReport types c)) =
      (⟨.error (.refused r), events⟩ : Report (List (Value × Text)))) :
    ∃ typed c rest, columns = typed.map (·.1) ++ c :: rest ∧ d.Resolved typed ∧
      d.resolve c = .error (.refused r) ∧ events = d.warnings typed := by
  induction columns generalizing events with
  | nil => cases (Report.pure_eq_iff.1 h).1
  | cons c columns ih =>
    rw [List.mapM_cons] at h
    rcases Report.bind_eq_error_iff.1 h with hfirst | ⟨_, _, _, hfirst, hothers, rfl⟩
    · rcases Report.bind_eq_error_iff.1 hfirst with htype | ⟨_, _, _, -, hname, -⟩
      · obtain ⟨hresolve, rfl⟩ := resolveReport_refused hvalid htype
        exact ⟨[], c, columns, rfl, by simp [Resolved], hresolve, rfl⟩
      · cases (Report.pure_eq_iff.1 hname).1
    obtain ⟨type, _, _, htype, hname, rfl⟩ := Report.bind_eq_ok_iff.1 hfirst
    obtain ⟨-, rfl⟩ := Report.pure_eq_iff.1 hname
    obtain ⟨hresolve, rfl⟩ := resolveReport_ok htype
    rcases Report.bind_eq_error_iff.1 hothers with hrest | ⟨_, _, _, -, hcons, -⟩
    · obtain ⟨typed, c', rest, rfl, hresolved, hrefused, rfl⟩ := ih hrest
      refine ⟨(c, type) :: typed, c', rest, rfl, List.forall_mem_cons.2 ⟨hresolve, hresolved⟩,
        hrefused, ?_⟩
      rw [warnings_cons _ typed, List.append_nil]
    · cases (Report.pure_eq_iff.1 hcons).1

/-! ## Where the work can be refused -/

/-- The refusal that work on a definition ends in, and the columns whose types were found
before. -/
inductive Refused (d : Definition) (types : Option (NameMap ColumnInfo)) :
    Refusal → List (Column × Text) → Prop
  | schema {r : Refusal} (h : d.columns types = .error (.refused r)) : Refused d types r []
  | overrides {r : Refusal} {columns : List Column} (hcolumns : d.columns types = .ok columns)
      (h : checkOverrides d.overrides (columns.map (·.name)) = .error (.refused r)) :
      Refused d types r []
  | partition {r : Refusal} {columns : List Column} (hcolumns : d.columns types = .ok columns)
      (hvalid : d.validate types = .ok ()) (h : d.checkPartition columns = .error (.refused r)) :
      Refused d types r []
  | type {r : Refusal} {typed : List (Column × Text)} {c : Column} {rest : List Column}
      (hcolumns : d.columns types = .ok (typed.map (·.1) ++ c :: rest))
      (hvalid : d.validate types = .ok ())
      (hpartition : d.checkPartition (typed.map (·.1) ++ c :: rest) = .ok ())
      (hresolved : d.Resolved typed) (h : d.resolve c = .error (.refused r)) :
      Refused d types r typed
  | delimiter {fault : DelimiterFault} {typed : List (Column × Text)}
      (hcolumns : d.columns types = .ok (typed.map (·.1))) (hvalid : d.validate types = .ok ())
      (hpartition : d.checkPartition (typed.map (·.1)) = .ok ()) (hresolved : d.Resolved typed)
      (h : Delimiter.escape d.options.fieldDelimiter = .error fault ∨
        Delimiter.escape d.options.lineDelimiter = .error fault) :
      Refused d types (.delimiter fault) typed

/-- Work that is not refused finds the types of all columns. -/
structure Completed (d : Definition) (types : Option (NameMap ColumnInfo))
    (typed : List (Column × Text)) : Prop where
  columns : d.columns types = .ok (typed.map (·.1))
  valid : d.validate types = .ok ()
  partition : d.checkPartition (typed.map (·.1)) = .ok ()
  resolved : d.Resolved typed

theorem createReport_ok {create : Text} {events : List Event}
    (h : d.createReport types = ⟨.ok create, events⟩) :
    ∃ typed, d.Completed types typed ∧ d.createTable (named typed) = .ok create ∧
      events = d.warnings typed := by
  obtain ⟨columns, hcolumns, h⟩ := Report.lift_bind_eq_ok_iff.1 h
  obtain ⟨_, hvalid, h⟩ := Report.lift_bind_eq_ok_iff.1 h
  obtain ⟨_, hpartition, h⟩ := Report.lift_bind_eq_ok_iff.1 h
  obtain ⟨found, _, _, hfound, htable, rfl⟩ := Report.bind_eq_ok_iff.1 h
  obtain ⟨hcreate, rfl⟩ := Report.lift_eq_iff.1 htable
  obtain ⟨typed, rfl, hresolved, rfl, rfl⟩ := resolveAll_ok hfound
  exact ⟨typed, ⟨hcolumns, hvalid, hpartition, hresolved⟩, hcreate, List.append_nil _⟩

theorem storage_not_refused {r : Refusal} : d.storage ≠ .error (.refused r) := by
  intro h
  rcases bind_eq_error.1 h with hindexed | ⟨indexed, -, h⟩
  · unfold Codec.isIndexed at hindexed
    split at hindexed
    · cases hindexed
    · split at hindexed <;> cases hindexed
  · cases indexed <;> cases h

theorem location_not_refused {r : Refusal} : d.location ≠ .error (.refused r) := by
  unfold location
  split
  · rintro ⟨⟩
  · split <;> rintro ⟨⟩

theorem loadData_not_refused {r : Refusal} : d.loadData ≠ .error (.refused r) := by
  have htext : ∀ v : Value, textOf .wrongKind v ≠ .error (.refused r) := by
    intro v
    cases v <;> rintro ⟨⟩
  intro h
  rcases bind_eq_error.1 h with hpath | ⟨path, -, h⟩
  · rcases bind_eq_error.1 hpath with hroot | ⟨root, -, hpath⟩
    · exact htext _ hroot
    rcases bind_eq_error.1 hpath with hname | ⟨name, -, hpath⟩
    · exact htext _ hname
    · cases hpath
  · cases h

/-- Of the parts of the statement that are put together last, only a delimiter is refused. -/
theorem createTable_refused {columns : List (Value × Text)} {r : Refusal}
    (h : d.createTable columns = .error (.refused r)) :
    ∃ fault, r = .delimiter fault ∧
      (Delimiter.escape d.options.fieldDelimiter = .error fault ∨
        Delimiter.escape d.options.lineDelimiter = .error fault) := by
  rcases bind_eq_error.1 h with hrow | ⟨row, -, h⟩
  · rcases bind_eq_error.1 hrow with hfield | ⟨field, -, hrow⟩
    · obtain ⟨fault, hfault, hrefused⟩ := mapError_eq_error.1 hfield
      exact ⟨fault, (Refusal.eq_of_failure hrefused).symm, .inl hfault⟩
    rcases bind_eq_error.1 hrow with hline | ⟨line, -, hrow⟩
    · obtain ⟨fault, hfault, hrefused⟩ := mapError_eq_error.1 hline
      exact ⟨fault, (Refusal.eq_of_failure hrefused).symm, .inr hfault⟩
    · cases hrow
  rcases bind_eq_error.1 h with hstorage | ⟨storage, -, h⟩
  · exact absurd hstorage storage_not_refused
  rcases bind_eq_error.1 h with hlocation | ⟨location, -, h⟩
  · exact absurd hlocation location_not_refused
  · cases h

theorem createReport_refused {r : Refusal} {events : List Event}
    (h : d.createReport types = ⟨.error (.refused r), events⟩) :
    ∃ typed, d.Refused types r typed ∧ events = d.warnings typed := by
  rcases Report.lift_bind_eq_error_iff.1 h with ⟨hcolumns, rfl⟩ | ⟨columns, hcolumns, h⟩
  · exact ⟨[], .schema hcolumns, rfl⟩
  rcases Report.lift_bind_eq_error_iff.1 h with ⟨hinvalid, rfl⟩ | ⟨_, hvalid, h⟩
  · rw [Writer.validate_of_columns hcolumns] at hinvalid
    exact ⟨[], .overrides hcolumns hinvalid, rfl⟩
  rcases Report.lift_bind_eq_error_iff.1 h with ⟨hpartition, rfl⟩ | ⟨_, hpartition, h⟩
  · exact ⟨[], .partition hcolumns hvalid hpartition, rfl⟩
  rcases Report.bind_eq_error_iff.1 h with hfound | ⟨found, _, _, hfound, htable, rfl⟩
  · obtain ⟨typed, c, rest, rfl, hresolved, hrefused, rfl⟩ := resolveAll_refused hvalid hfound
    exact ⟨typed, .type hcolumns hvalid hpartition hresolved hrefused, rfl⟩
  · obtain ⟨hcreate, rfl⟩ := Report.lift_eq_iff.1 htable
    obtain ⟨typed, rfl, hresolved, rfl, rfl⟩ := resolveAll_ok hfound
    obtain ⟨fault, rfl, hfault⟩ := createTable_refused hcreate
    exact ⟨typed, .delimiter hcolumns hvalid hpartition hresolved hfault, List.append_nil _⟩

theorem statementsReport_ok {statements : Statements} {events : List Event}
    (h : d.statementsReport types = ⟨.ok statements, events⟩) :
    ∃ typed, d.Completed types typed ∧
      d.createTable (named typed) = .ok statements.createTable ∧ events = d.warnings typed := by
  obtain ⟨create, _, _, hcreate, hload, rfl⟩ := Report.bind_eq_ok_iff.1 h
  obtain ⟨load, -, hpure⟩ := Report.lift_bind_eq_ok_iff.1 hload
  obtain ⟨hok, rfl⟩ := Report.pure_eq_iff.1 hpure
  obtain rfl := Except.ok.inj hok
  obtain ⟨typed, hcompleted, htable, rfl⟩ := createReport_ok hcreate
  exact ⟨typed, hcompleted, htable, List.append_nil _⟩

theorem statementsReport_refused {r : Refusal} {events : List Event}
    (h : d.statementsReport types = ⟨.error (.refused r), events⟩) :
    ∃ typed, d.Refused types r typed ∧ events = d.warnings typed := by
  rcases Report.bind_eq_error_iff.1 h with hcreate | ⟨create, _, _, -, hload, -⟩
  · exact createReport_refused hcreate
  rcases Report.lift_bind_eq_error_iff.1 hload with ⟨hload, -⟩ | ⟨load, -, hpure⟩
  · exact absurd hload loadData_not_refused
  · cases (Report.pure_eq_iff.1 hpure).1

end Definition

namespace Writer
variable {d : Definition} {types : Option (NameMap ColumnInfo)} {α β : Type}

/-! ## Requests with their numbers -/

theorem perform_pure_eq_ok {w w' : Writer} {a b : α} (h : w.perform (pure a) = (.ok b, w')) :
    a = b ∧ w = w' := by
  obtain ⟨hvalue, hwriter⟩ := Prod.mk.inj h
  exact ⟨Except.ok.inj hvalue, hwriter⟩

theorem perform_bind_eq_ok_iff {w w' : Writer} {a : Action α} {f : α → Action β} {b : β} :
    w.perform (a >>= f) = (.ok b, w') ↔
      ∃ x w₁, w.perform a = (.ok x, w₁) ∧ w₁.perform (f x) = (.ok b, w') := by
  rw [perform_bind]
  rcases w.perform a with ⟨_ | x, w₁⟩
  · simp
  · constructor
    · exact fun h => ⟨x, w₁, rfl, h⟩
    · rintro ⟨_, _, ⟨⟩, h⟩
      exact h

theorem perform_bind_eq_error_iff {w w' : Writer} {a : Action α} {f : α → Action β} {e : Failure} :
    w.perform (a >>= f) = (.error e, w') ↔ w.perform a = (.error e, w') ∨
      ∃ x w₁, w.perform a = (.ok x, w₁) ∧ w₁.perform (f x) = (.error e, w') := by
  rw [perform_bind]
  rcases w.perform a with ⟨e' | x, w₁⟩
  · simp
  · constructor
    · exact fun h => .inr ⟨x, w₁, rfl, h⟩
    · rintro (h | ⟨_, _, ⟨⟩, h⟩)
      · cases (Prod.mk.inj h).1
      · exact h

theorem Coherent.numbered {w : Writer} (h : Coherent d types w) (request : Nat) :
    Coherent d types { w with requests := request } :=
  ⟨h.1, h.2, h.3, h.4⟩

theorem perform_emit_ok {w w' : Writer} (h : Coherent d types w) {e : Event} {u : Unit}
    (hrun : w.perform (emit e) = (.ok u, w')) :
    Coherent d types w' ∧ w'.events = w.events ++ [e] := by
  rw [perform_emit] at hrun
  split at hrun
  · obtain rfl := (Prod.mk.inj hrun).2
    exact ⟨⟨h.1, h.2, h.3, h.4⟩, rfl⟩
  · cases (Prod.mk.inj hrun).1

theorem perform_emit_not_refused {w w' : Writer} {e : Event} {r : Refusal} :
    w.perform (emit e) ≠ (.error (.refused r), w') := by
  intro h
  rw [perform_emit] at h
  split at h
  · cases (Prod.mk.inj h).1
  · rename_i hf
    obtain rfl := Except.error.inj (Prod.mk.inj h).1
    exact Event.text_not_refused hf

/-- The events of columns have no number. -/
theorem eq_warnings_of_unnumbered {new : List Event} {typed : List (Column × Text)}
    (h : new.map Event.unnumbered = d.warnings typed) : new = d.warnings typed := by
  have hnumber : ∀ e ∈ new, e.unnumbered = e := by
    intro e he
    have hmem : e.unnumbered ∈ d.warnings typed := h ▸ List.mem_map_of_mem he
    obtain ⟨p, -, hp⟩ := List.mem_filterMap.1 hmem
    rw [Definition.warning?_eq] at hp
    split at hp
    · cases e <;> first | rfl | cases hp
    · cases hp
  rw [← h, List.map_congr_left hnumber, List.map_id']

theorem perform_statements_ok {w w' : Writer} (h : Coherent d types w) {statements : Statements}
    (hrun : w.perform Writer.statements = (.ok statements, w')) :
    ∃ typed, d.Completed types typed ∧
      d.createTable (Definition.named typed) = .ok statements.createTable ∧
      Coherent d types w' ∧ w'.events = w.events ++ d.warnings typed := by
  obtain ⟨w₁, hrun₁, hcoherent, new, hevents, hnew⟩ := statements_follows w h
  rw [hrun₁] at hrun
  obtain ⟨hresult, rfl⟩ := Prod.mk.inj hrun
  obtain ⟨typed, hcompleted, htable, htyped⟩ :=
    Definition.statementsReport_ok (Report.mk_eq.2 ⟨hresult, rfl⟩)
  rw [htyped] at hnew
  obtain rfl := eq_warnings_of_unnumbered hnew
  exact ⟨typed, hcompleted, htable, hcoherent, hevents⟩

theorem perform_statements_refused {w w' : Writer} (h : Coherent d types w) {r : Refusal}
    (hrun : w.perform Writer.statements = (.error (.refused r), w')) :
    ∃ typed, d.Refused types r typed ∧ w'.events = w.events ++ d.warnings typed := by
  obtain ⟨w₁, hrun₁, -, new, hevents, hnew⟩ := statements_follows w h
  rw [hrun₁] at hrun
  obtain ⟨hresult, rfl⟩ := Prod.mk.inj hrun
  obtain ⟨typed, hrefused, htyped⟩ :=
    Definition.statementsReport_refused (Report.mk_eq.2 ⟨hresult, rfl⟩)
  rw [htyped] at hnew
  obtain rfl := eq_warnings_of_unnumbered hnew
  exact ⟨typed, hrefused, hevents⟩

/-- The columns of a coherent writer are known without a report. -/
theorem perform_describe {w : Writer} (h : Coherent d types w) :
    ∃ w', w.perform describe = (d.columns types, w') ∧ Coherent d types w' ∧
      w'.events = w.events := by
  obtain ⟨w', hrun, hcoherent, new, hevents, hnew⟩ := describe_follows w h
  obtain rfl := List.map_eq_nil_iff.1 hnew
  exact ⟨w', hrun, hcoherent, by rw [hevents, List.append_nil]⟩

/-- The statements of a request, with a report if they are refused. -/
def reported (request : Nat) (table : Value) : Action Statements :=
  tryCatch statements fun f => do
    match f with
    | .refused r => emit (.failed request table r)
    | _ => pure ()
    throw f

theorem perform_throw_ne_ok {w w' : Writer} {f : Failure} {a : α} :
    w.perform (throw f) ≠ (.ok a, w') := by
  intro h
  cases (Prod.mk.inj h).1

theorem perform_reported_ok {w w' : Writer} {request : Nat} {table : Value}
    {found : Statements} (hrun : w.perform (reported request table) = (.ok found, w')) :
    w.perform statements = (.ok found, w') := by
  unfold reported at hrun
  rw [perform_tryCatch] at hrun
  rcases hstatements : w.perform statements with ⟨f | s, w₁⟩
  · rw [hstatements] at hrun
    dsimp only at hrun
    split at hrun
    · obtain ⟨_, _, -, hthrow⟩ := perform_bind_eq_ok_iff.1 hrun
      exact absurd hthrow perform_throw_ne_ok
    · exact absurd hrun perform_throw_ne_ok
  · rw [hstatements] at hrun
    exact hrun

theorem perform_reported_refused {w w' : Writer} {request : Nat} {table : Value} {r : Refusal}
    (hrun : w.perform (reported request table) = (.error (.refused r), w')) :
    ∃ w₁, w.perform statements = (.error (.refused r), w₁) ∧
      w'.events = w₁.events ++ [.failed request table r] := by
  unfold reported at hrun
  rw [perform_tryCatch] at hrun
  rcases hstatements : w.perform statements with ⟨f | s, w₁⟩
  · rw [hstatements] at hrun
    dsimp only at hrun
    split at hrun
    · rename_i r'
      rcases perform_bind_eq_error_iff.1 hrun with hemit | ⟨_, w₂, hemit, hthrow⟩
      · exact absurd hemit perform_emit_not_refused
      · obtain ⟨hsame, rfl⟩ := Prod.mk.inj hthrow
        obtain rfl := Failure.refused.inj (Except.error.inj hsame)
        refine ⟨w₁, rfl, ?_⟩
        rw [perform_emit] at hemit
        split at hemit
        · obtain rfl := (Prod.mk.inj hemit).2
          rfl
        · cases (Prod.mk.inj hemit).1
    · rename_i hother
      exact absurd (Except.error.inj (Prod.mk.inj hrun).1) (hother r)
  · rw [hstatements] at hrun
    cases (Prod.mk.inj hrun).1

/-- What a request is reported to start with. -/
def startedEvent (w : Writer) : Event :=
  .started (w.requests + 1) w.definition.inputTable w.definition.outputTable
    w.definition.options.database

theorem perform_generate (w : Writer) :
    w.perform generate = { w with requests := w.requests + 1 }.perform (do
      emit w.startedEvent
      let found ← reported (w.requests + 1) w.definition.outputTable
      let columns ← describe
      emit (.generated (w.requests + 1) w.definition.outputTable columns.length)
      return found) := by
  unfold generate
  rw [perform_get_bind, perform_modify_bind, perform_get_bind]
  rfl

/-- A request that is answered reports its start, its columns and its end. -/
theorem perform_generate_ok {w w' : Writer} (h : Coherent d types w) {found : Statements}
    (hrun : w.perform generate = (.ok found, w')) :
    ∃ typed, d.Completed types typed ∧
      d.createTable (Definition.named typed) = .ok found.createTable ∧
      w'.events = w.events ++ w.startedEvent :: d.warnings typed ++
        [.generated (w.requests + 1) d.outputTable typed.length] := by
  obtain rfl := h.sameDefinition
  rw [perform_generate] at hrun
  obtain ⟨_, w₁, hstarted, hrun⟩ := perform_bind_eq_ok_iff.1 hrun
  obtain ⟨hw₁, hevents₁⟩ := perform_emit_ok (h.numbered _) hstarted
  obtain ⟨s, w₂, hreported, hrun⟩ := perform_bind_eq_ok_iff.1 hrun
  obtain ⟨typed, hcompleted, htable, hw₂, hevents₂⟩ :=
    perform_statements_ok hw₁ (perform_reported_ok hreported)
  obtain ⟨w₃, hdescribe, hw₃, hevents₃⟩ := perform_describe hw₂
  rw [perform_bind, hdescribe, hcompleted.columns] at hrun
  obtain ⟨_, w₄, hgenerated, hrun⟩ := perform_bind_eq_ok_iff.1 hrun
  obtain ⟨rfl, rfl⟩ := perform_pure_eq_ok hrun
  refine ⟨typed, hcompleted, htable, ?_⟩
  rw [(perform_emit_ok hw₃ hgenerated).2, hevents₃, hevents₂, hevents₁, List.length_map]
  simp

/-- A request that is refused reports its start, the columns whose types were found, and the
refusal. -/
theorem perform_generate_refused {w w' : Writer} (h : Coherent d types w) {r : Refusal}
    (hrun : w.perform generate = (.error (.refused r), w')) :
    ∃ typed, d.Refused types r typed ∧
      w'.events = w.events ++ w.startedEvent :: d.warnings typed ++
        [.failed (w.requests + 1) d.outputTable r] := by
  obtain rfl := h.sameDefinition
  rw [perform_generate] at hrun
  rcases perform_bind_eq_error_iff.1 hrun with hstarted | ⟨_, w₁, hstarted, hrun⟩
  · exact absurd hstarted perform_emit_not_refused
  obtain ⟨hw₁, hevents₁⟩ := perform_emit_ok (h.numbered _) hstarted
  rcases perform_bind_eq_error_iff.1 hrun with hreported | ⟨s, w₂, hreported, hrun⟩
  · obtain ⟨w₂, hstatements, hfailed⟩ := perform_reported_refused hreported
    obtain ⟨typed, hrefused, hevents₂⟩ := perform_statements_refused hw₁ hstatements
    refine ⟨typed, hrefused, ?_⟩
    rw [hfailed, hevents₂, hevents₁]
    simp
  -- Once there are statements the columns are known, and what is left to report is not refused.
  obtain ⟨typed, hcompleted, -, hw₂, -⟩ :=
    perform_statements_ok hw₁ (perform_reported_ok hreported)
  obtain ⟨w₃, hdescribe, -, -⟩ := perform_describe hw₂
  rw [perform_bind, hdescribe, hcompleted.columns] at hrun
  rcases perform_bind_eq_error_iff.1 hrun with hgenerated | ⟨_, w₄, -, hfound⟩
  · exact absurd hgenerated perform_emit_not_refused
  · cases (Prod.mk.inj hfound).1

end Writer

end HiveTable
