import HiveTable.Proofs.Writer.Coherence

/-!
# What a writer keeps is never seen

A run of a writer is any list of calls, each of which may fail. The outcome of a call is how it
ends and what it reports, but for the numbers of requests. `outcome_after_run` says that after
any run the outcome of the next call is the one on a new writer on which only the last setting
of types that succeeded in the run was applied: columns that were learned and checks that were
made before are never seen, and neither are calls that failed. An outcome depends on what is known
only (`outcome_eq_knowledge`), and writers that keep the same still know the same after a run on
both (`after_kept`).
-/

namespace HiveTable

namespace Writer

inductive Call
  | setTypes (entries : Entries ColumnInfo)
  | describe
  | validate
  | resolve (c : Column)
  | createTable
  | loadData
  | sourcePath
  | generate
  | generateFields

inductive Reply
  | done
  | columns (columns : List Column)
  | text (t : Text)
  | statements (s : Statements)
  | fields (fields : List (String × Text))

namespace Call

def action : Call → Action Reply
  | .setTypes entries => do Writer.setTypes entries; return .done
  | .describe => return .columns (← Writer.describe)
  | .validate => do Writer.validate; return .done
  | .resolve c => return .text (← Writer.resolve c)
  | .createTable => return .text (← Writer.createTable)
  | .loadData => return .text (← Writer.loadData)
  | .sourcePath => return .text (← Writer.sourcePath)
  | .generate => return .statements (← Writer.generate)
  | .generateFields => return .fields (← Writer.generateFields)

def setsTypes : Call → Bool
  | .setTypes _ => true
  | _ => false

/-- The types that are set after a call. -/
def typesAfter (types : Option (NameMap ColumnInfo)) : Call → Option (NameMap ColumnInfo)
  | .setTypes entries => (NameMap.ofEntries entries).toOption.or types
  | _ => types

def report (d : Definition) (types : Option (NameMap ColumnInfo)) : Call → Report Reply
  | .setTypes entries => do let _ ← NameMap.ofEntries entries; return .done
  | .describe => return .columns (← d.columns types)
  | .validate => do d.validate types; return .done
  | .resolve c => return .text (← d.resolveReport types c)
  | .createTable => return .text (← d.createReport types)
  | .loadData => return .text (← d.loadData)
  | .sourcePath => return .text (← d.sourcePath)
  | .generate => return .statements (← d.generateReport types)
  | .generateFields => return .fields (← d.fieldsReport types)

end Call

end Writer

/-- The report of a call on what is known. A setting of types only looks at their names. -/
def Knowledge.report (k : Knowledge) : Writer.Call → Report Writer.Reply
  | .setTypes entries => do let _ ← NameMap.ofEntries entries; return .done
  | .describe => return .columns (← k.columns)
  | .validate => do k.checked; return .done
  | .resolve c => return .text (← k.typeReport c)
  | .createTable => return .text (← k.createReport)
  | .loadData => return .text (← k.definition.loadData)
  | .sourcePath => return .text (← k.definition.sourcePath)
  | .generate => return .statements (← k.generateReport)
  | .generateFields => return .fields (← k.fieldsReport)

namespace Writer
variable {d : Definition} {types : Option (NameMap ColumnInfo)}

/-- How a call ends, and what it reports but for the number of its request. -/
def outcome (w : Writer) (call : Call) : Except Failure Reply × List Event :=
  let (result, w') := w.perform call.action
  (result, (w'.events.drop w.events.length).map Event.unnumbered)

def next (w : Writer) (call : Call) : Writer := (w.perform call.action).2

def after (w : Writer) (calls : List Call) : Writer := calls.foldl next w

def succeeds (w : Writer) (call : Call) : Bool := (w.outcome call).1.isOk

/-- The last call of a run that set the types and succeeded where it stood. -/
def lastSet? (w : Writer) : List Call → Option Call
  | [] => none
  | call :: rest =>
    (lastSet? (w.next call) rest).or
      (if call.setsTypes && w.succeeds call then some call else none)

/-! ## One call -/

theorem perform_setTypes (w : Writer) (entries : Entries ColumnInfo) :
    w.perform (Call.setTypes entries).action = match NameMap.ofEntries entries with
      | .ok types =>
        (.ok .done, { w with types := some types, columns := none, validated := false })
      | .error e => (.error e, w) := by
  unfold Call.action setTypes
  rw [perform_bind, perform_bind, perform_lift]
  cases NameMap.ofEntries entries <;> rfl

theorem report_setTypes (entries : Entries ColumnInfo) :
    (Call.setTypes entries).report d types =
      liftM (NameMap.ofEntries entries) >>= fun _ => pure .done := rfl

theorem typesAfter_setTypes (entries : Entries ColumnInfo) :
    (Call.setTypes entries).typesAfter types = (NameMap.ofEntries entries).toOption.or types :=
  rfl

theorem succeeds_setTypes (w : Writer) (entries : Entries ColumnInfo) :
    w.succeeds (.setTypes entries) = (NameMap.ofEntries entries).isOk := by
  unfold succeeds outcome
  rw [perform_setTypes]
  cases NameMap.ofEntries entries <;> rfl

theorem report_eq (call : Call) : call.report d types = (d.knowledge types).report call := by
  unfold Call.report Knowledge.report
  cases call with
  | resolve c => simp only [Definition.resolveReport_eq]
  | createTable => simp only [Definition.createReport_eq]
  | generate => simp only [Definition.generateReport_eq]
  | generateFields => simp only [Definition.fieldsReport_eq]
  | _ => rfl

/-- A call that sets no types ends as its report and leaves what is known. -/
theorem call_yields {k : Knowledge} {call : Call} (h : call.setsTypes = false) :
    Yields k call.action (k.report call) := by
  cases call with
  | setTypes entries => cases h
  | describe => exact .bind describe_yields fun _ => .pure _
  | validate => exact .bind validate_yields fun _ => .pure _
  | resolve c => exact .bind (resolve_yields c) fun _ => .pure _
  | createTable => exact .bind createTable_yields fun _ => .pure _
  | loadData => exact .bind loadData_yields fun _ => .pure _
  | sourcePath => exact .bind sourcePath_yields fun _ => .pure _
  | generate => exact .bind generate_yields fun _ => .pure _
  | generateFields => exact .bind generateFields_yields fun _ => .pure _

theorem action_follows {call : Call} (h : call.setsTypes = false) :
    Follows d types call.action (call.report d types) := by
  rw [report_eq]
  exact (call_yields h).follows

/-- The outcome of a call depends on what is known only. -/
theorem outcome_eq_knowledge (w : Writer) (call : Call) :
    w.outcome call = ((w.knowledge.report call).result, (w.knowledge.report call).events) := by
  unfold outcome
  cases hset : call.setsTypes with
  | false =>
    obtain ⟨w', hrun, hadds⟩ := call_yields hset w rfl
    obtain ⟨new, hevents, hmap⟩ := hadds.added
    rw [hrun]
    simp only [hevents, List.drop_left, hmap]
  | true =>
    cases call with
    | setTypes entries =>
      have hreport : w.knowledge.report (.setTypes entries) =
          liftM (NameMap.ofEntries entries) >>= fun _ => pure .done := rfl
      rw [perform_setTypes, hreport]
      cases NameMap.ofEntries entries <;> dsimp only <;> rw [List.drop_length] <;> rfl
    | _ => cases hset

theorem outcome_generate (w : Writer) :
    w.outcome .generate = (w.knowledge.generateReport.result.map Reply.statements,
      w.knowledge.generateReport.events) := by
  have hreport : w.knowledge.report .generate = Reply.statements <$> w.knowledge.generateReport :=
    (map_eq_pure_bind _ _).symm
  rw [outcome_eq_knowledge, hreport, Report.result_map, Report.events_map]

/-- Statements that a request returns are those of its report. -/
theorem outcome_generate_eq_ok {w : Writer} {s : Statements} :
    (w.outcome .generate).1 = .ok (.statements s) ↔ w.knowledge.generateReport.result = .ok s := by
  rw [outcome_generate]
  cases w.knowledge.generateReport.result <;> simp [Except.map]

/-- The statements of a request are those that the writer makes by themselves. -/
theorem outcome_of_generate {w : Writer} {s : Statements}
    (h : (w.outcome .generate).1 = .ok (.statements s)) :
    (w.outcome .createTable).1 = .ok (.text s.createTable) ∧
      (w.outcome .loadData).1 = .ok (.text s.loadData) := by
  obtain ⟨_, _, _, _, -, hstatements, -⟩ :=
    Knowledge.generateReport_eq_ok.1 (Report.mk_eq.2 ⟨outcome_generate_eq_ok.1 h, rfl⟩)
  obtain ⟨hcreate, hload⟩ := Knowledge.statementsReport_eq_ok.1 hstatements
  rw [outcome_eq_knowledge, outcome_eq_knowledge]
  unfold Knowledge.report
  rw [hcreate, hload]
  exact ⟨rfl, rfl⟩

/-- What holds of two writers by what they know, and still when the same types are set on both,
holds after any call on both. -/
theorem next_related {R : Writer → Writer → Prop}
    (hknown : ∀ {w w' v v' : Writer}, v.knowledge = w.knowledge → v.types = w.types →
      v'.knowledge = w'.knowledge → v'.types = w'.types → R w w' → R v v')
    (hset : ∀ {w w' : Writer} (types : NameMap ColumnInfo), R w w' →
      R { w with types := some types, columns := none, validated := false }
        { w' with types := some types, columns := none, validated := false })
    {w w' : Writer} (h : R w w') (call : Call) : R (w.next call) (w'.next call) := by
  cases hsets : call.setsTypes with
  | false =>
    have hnext : ∀ v : Writer, (v.next call).knowledge = v.knowledge ∧
        (v.next call).types = v.types := by
      intro v
      obtain ⟨v', hrun, hadds⟩ := call_yields hsets v rfl
      rw [next, hrun]
      exact ⟨hadds.knowledge, hadds.types⟩
    exact hknown (hnext w).1 (hnext w).2 (hnext w').1 (hnext w').2 h
  | true =>
    cases call with
    | setTypes entries =>
      unfold next
      rw [perform_setTypes, perform_setTypes]
      cases NameMap.ofEntries entries with
      | error e => exact h
      | ok types => exact hset types h
    | _ => cases hsets

theorem after_related {R : Writer → Writer → Prop}
    (hknown : ∀ {w w' v v' : Writer}, v.knowledge = w.knowledge → v.types = w.types →
      v'.knowledge = w'.knowledge → v'.types = w'.types → R w w' → R v v')
    (hset : ∀ {w w' : Writer} (types : NameMap ColumnInfo), R w w' →
      R { w with types := some types, columns := none, validated := false }
        { w' with types := some types, columns := none, validated := false })
    {w w' : Writer} (h : R w w') (calls : List Call) : R (w.after calls) (w'.after calls) := by
  induction calls generalizing w w' with
  | nil => exact h
  | cons call rest ih => exact ih (next_related hknown hset h call)

/-- Writers that keep the same, and whose definitions yield the same columns and have the same
overrides, know the same columns and the same of the check after any run of calls on both. -/
theorem after_kept (w w' : Writer)
    (hcolumns : ∀ types, w.definition.columns types = w'.definition.columns types)
    (hoverrides : w.definition.overrides = w'.definition.overrides) (htypes : w.types = w'.types)
    (hkept : w.columns = w'.columns) (hvalidated : w.validated = w'.validated)
    (calls : List Call) :
    (w.after calls).definition = w.definition ∧ (w'.after calls).definition = w'.definition ∧
      (w.after calls).known = (w'.after calls).known ∧
      (w.after calls).checked = (w'.after calls).checked := by
  have hknown : ∀ {v v' : Writer}, v.definition = w.definition → v'.definition = w'.definition →
      v.types = v'.types → v.columns = v'.columns → v.validated = v'.validated →
      v.known = v'.known ∧ v.checked = v'.checked := by
    intro v v' hv hv' htypes hkept hvalidated
    have hsame : v.known = v'.known := by
      unfold known
      rw [hkept, htypes, hv, hv', hcolumns]
    refine ⟨hsame, ?_⟩
    unfold checked
    rw [hvalidated, hsame, hv, hv', hoverrides]
  have hrun := after_related (w := w) (R := fun v v' =>
    (v.definition = w.definition ∧ v'.definition = w'.definition ∧ v.types = v'.types) ∧
      v.known = v'.known ∧ v.checked = v'.checked) ?_ ?_
    ⟨⟨rfl, rfl, htypes⟩, hknown rfl rfl htypes hkept hvalidated⟩ calls
  · obtain ⟨⟨hd, hd', -⟩, hsame, hchecked⟩ := hrun
    exact ⟨hd, hd', hsame, hchecked⟩
  · rintro v v' u u' hu hutypes hu' hutypes' ⟨⟨hd, hd', hvtypes⟩, hsame, hchecked⟩
    refine ⟨⟨(definition_of_knowledge hu).trans hd, (definition_of_knowledge hu').trans hd', ?_⟩,
      (known_of_knowledge hu).trans (hsame.trans (known_of_knowledge hu').symm),
      (checked_of_knowledge hu).trans (hchecked.trans (checked_of_knowledge hu').symm)⟩
    rw [hutypes, hutypes', hvtypes]
  · rintro v v' types ⟨⟨hd, hd', -⟩, -⟩
    exact ⟨⟨hd, hd', rfl⟩, hknown hd hd' rfl rfl rfl⟩

theorem after_definition (w : Writer) (calls : List Call) :
    (w.after calls).definition = w.definition :=
  (after_kept w w (fun _ => rfl) rfl rfl rfl rfl calls).1

/-- A call ends as its report, whatever is kept, and leaves what is kept coherent. -/
theorem perform_call {w : Writer} (h : Coherent d types w) (call : Call) :
    ∃ w', w.perform call.action = ((call.report d types).result, w') ∧
      Advance d (call.typesAfter types) w (call.report d types).events w' := by
  cases hset : call.setsTypes with
  | false =>
    have htypes : call.typesAfter types = types := by
      cases call <;> first | rfl | cases hset
    rw [htypes]
    exact action_follows hset w h
  | true =>
    cases call with
    | setTypes entries =>
      rw [perform_setTypes, report_setTypes, typesAfter_setTypes]
      cases NameMap.ofEntries entries with
      | error e => exact ⟨w, rfl, .refl h⟩
      | ok types =>
        refine ⟨_, rfl, ⟨h.1, rfl, ?_, ?_⟩, [], by simp, rfl⟩
        · rintro _ ⟨⟩
        · rintro ⟨⟩
    | _ => cases hset

theorem next_coherent {w : Writer} (h : Coherent d types w) (call : Call) :
    Coherent d (call.typesAfter types) (w.next call) := by
  obtain ⟨w', hrun, hadv⟩ := perform_call h call
  rw [next, hrun]
  exact hadv.coherent

theorem outcome_eq_report {w : Writer} (h : Coherent d types w) (call : Call) :
    w.outcome call = ((call.report d types).result, (call.report d types).events) := by
  obtain ⟨w', hrun, hadv⟩ := perform_call h call
  obtain ⟨new, hevents, hmap⟩ := hadv.added
  unfold outcome
  rw [hrun]
  simp only [hevents, List.drop_left, hmap]

/-! ## Runs -/

/-- The types that are set after a run. -/
def Call.typesAfterAll (types : Option (NameMap ColumnInfo)) (calls : List Call) :
    Option (NameMap ColumnInfo) := calls.foldl typesAfter types

theorem after_coherent {w : Writer} (h : Coherent d types w) (calls : List Call) :
    Coherent d (Call.typesAfterAll types calls) (w.after calls) := by
  induction calls generalizing w types with
  | nil => exact h
  | cons call rest ih => exact ih (next_coherent h call)

/-- Only a setting of types that succeeds changes the types. -/
theorem typesAfter_of_not_set {w : Writer} {call : Call} (types : Option (NameMap ColumnInfo))
    (h : (call.setsTypes && w.succeeds call) = false) : call.typesAfter types = types := by
  cases call with
  | setTypes entries =>
    have hfailed : (NameMap.ofEntries entries).isOk = false := by
      rw [← succeeds_setTypes w entries]
      exact h
    rw [typesAfter_setTypes]
    cases hentries : NameMap.ofEntries entries with
    | error e => rfl
    | ok given =>
      rw [hentries] at hfailed
      cases hfailed
  | _ => rfl

/-- What was set before a setting of types that succeeds does not matter. -/
theorem typesAfter_of_set {w : Writer} {call : Call}
    (h : (call.setsTypes && w.succeeds call) = true) (types types' : Option (NameMap ColumnInfo)) :
    call.typesAfter types = call.typesAfter types' := by
  cases call with
  | setTypes entries =>
    have hok : (NameMap.ofEntries entries).isOk = true := by
      rw [← succeeds_setTypes w entries]
      exact h
    rw [typesAfter_setTypes, typesAfter_setTypes]
    cases hentries : NameMap.ofEntries entries with
    | error e =>
      rw [hentries] at hok
      cases hok
    | ok given => rfl
  | _ => cases h

theorem lastSet?_sets {w : Writer} {calls : List Call} {call : Call}
    (h : w.lastSet? calls = some call) : ∃ w' : Writer, (call.setsTypes && w'.succeeds call) = true := by
  induction calls generalizing w with
  | nil => cases h
  | cons first rest ih =>
    unfold lastSet? at h
    cases hrest : (w.next first).lastSet? rest with
    | some later =>
      rw [hrest, Option.some_or] at h
      exact ih (hrest.trans h)
    | none =>
      rw [hrest, Option.none_or] at h
      split at h
      · rename_i hset
        obtain rfl := Option.some.inj h
        exact ⟨w, hset⟩
      · cases h

/-- Of a run only the last setting that succeeded decides what is set. -/
theorem typesAfterAll_lastSet? (w : Writer) (calls : List Call)
    (types : Option (NameMap ColumnInfo)) :
    Call.typesAfterAll types calls = Call.typesAfterAll types (w.lastSet? calls).toList := by
  induction calls generalizing w types with
  | nil => rfl
  | cons call rest ih =>
    have hrest : Call.typesAfterAll types (call :: rest) =
        Call.typesAfterAll (call.typesAfter types) ((w.next call).lastSet? rest).toList :=
      ih (w.next call) (call.typesAfter types)
    rw [hrest, lastSet?]
    cases hlater : (w.next call).lastSet? rest with
    | some later =>
      obtain ⟨w', hset⟩ := lastSet?_sets hlater
      exact typesAfter_of_set hset _ _
    | none =>
      cases hset : call.setsTypes && w.succeeds call with
      | true => rfl
      | false => exact typesAfter_of_not_set types hset

/-- Writers that are coherent for the same types cannot be told apart. -/
theorem outcome_congr {w w' : Writer} (h : Coherent d types w) (h' : Coherent d types w')
    (call : Call) : w.outcome call = w'.outcome call := by
  rw [outcome_eq_report h, outcome_eq_report h']

theorem next_of_setTypes_failed {w : Writer} {entries : Entries ColumnInfo}
    (h : w.succeeds (.setTypes entries) = false) : w.next (.setTypes entries) = w := by
  rw [succeeds_setTypes] at h
  unfold next
  rw [perform_setTypes]
  cases hentries : NameMap.ofEntries entries with
  | error e => rfl
  | ok types =>
    rw [hentries] at h
    cases h

/-- After any run of a new writer the next call ends and reports as on a new writer with the
last types that were set. A setting of types that fails leaves the writer as it was, and a call
that fails, wherever it stands in a run, changes no later outcome. -/
theorem outcome_after_run (d : Definition) (calls : List Call) :
    let w : Writer := { definition := d }
    (∀ call, (w.after calls).outcome call = (w.after (w.lastSet? calls).toList).outcome call) ∧
    (∀ entries, (w.after calls).succeeds (.setTypes entries) = false →
      (w.after calls).next (.setTypes entries) = w.after calls) ∧
    (∀ failed rest call, (w.after calls).succeeds failed = false →
      (((w.after calls).next failed).after rest).outcome call =
        ((w.after calls).after rest).outcome call) := by
  intro w
  have hrun := after_coherent (coherent_new d) calls
  refine ⟨fun call => ?_, fun entries => next_of_setTypes_failed, fun failed rest call hfailed => ?_⟩
  · have hlast := after_coherent (coherent_new d) (w.lastSet? calls).toList
    rw [← typesAfterAll_lastSet? w calls none] at hlast
    exact outcome_congr hrun hlast call
  · have hskipped := next_coherent hrun failed
    rw [typesAfter_of_not_set (w := w.after calls) _ (by simp [hfailed])] at hskipped
    exact outcome_congr (after_coherent hskipped rest) (after_coherent hrun rest) call

end Writer

end HiveTable
