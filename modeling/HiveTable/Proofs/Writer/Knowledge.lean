import HiveTable.Proofs.Success
import HiveTable.Proofs.Writer.Report

/-!
# What a writer knows

A writer keeps its columns and whether its overrides were checked, and what it keeps need not agree
with its definition: its source may have been replaced and its options assigned. The `known`
columns and the `checked` overrides are what it goes by. Together with the definition they are the
`Knowledge` of the writer, and there is a report for each action on it. On every writer with that
knowledge the action ends as its report, and it leaves the knowledge as it is: the action `Yields`
its report. Yielding is closed under the constructs that actions are made of, so there is one lemma
for each construct and one for each action.
-/

namespace HiveTable

namespace Writer
variable {α β : Type}

/-! ## Running actions -/

/-- How an action ends and the writer it leaves, failed or not. -/
def perform (w : Writer) (a : Action α) : Except Failure α × Writer := (a.run.run w).run

theorem perform_bind (w : Writer) (a : Action α) (f : α → Action β) :
    w.perform (a >>= f) = match w.perform a with
      | (.ok x, w') => w'.perform (f x)
      | (.error e, w') => (.error e, w') := by
  simp only [perform, ExceptT.run_bind, StateT.run_bind, Id.run_bind]
  rcases (a.run.run w).run with ⟨_ | x, w'⟩ <;> rfl

theorem perform_tryCatch (w : Writer) (a : Action α) (handle : Failure → Action α) :
    w.perform (tryCatch a handle) = match w.perform a with
      | (.ok x, w') => (.ok x, w')
      | (.error e, w') => w'.perform (handle e) := by
  simp only [perform, ExceptT.run_tryCatch, StateT.run_bind, Id.run_bind]
  rcases (a.run.run w).run with ⟨_ | x, w'⟩ <;> rfl

theorem perform_lift (w : Writer) (r : Except Failure α) :
    w.perform (liftM r : Action α) = (r, w) := rfl

theorem perform_get_bind (w : Writer) (f : Writer → Action α) :
    w.perform (get >>= f) = w.perform (f w) := by
  rw [perform_bind]
  rfl

theorem perform_modify_bind (w : Writer) (f : Writer → Writer) (a : Unit → Action α) :
    w.perform (modify f >>= a) = (f w).perform (a ()) := by
  rw [perform_bind]
  rfl

theorem perform_lift_bind (w : Writer) (r : Except Failure α) (f : α → Action β) :
    w.perform (liftM r >>= f) = match r with
      | .ok x => w.perform (f x)
      | .error e => (.error e, w) := by
  rw [perform_bind, perform_lift]
  cases r <;> rfl

theorem perform_emit (w : Writer) (e : Event) :
    w.perform (emit e) = match e.text (fun _ => "") .zero with
      | .ok _ => (.ok (), { w with events := w.events ++ [e] })
      | .error f => (.error f, w) := by
  unfold emit
  rw [perform_bind, perform_lift]
  cases e.text (fun _ => "") .zero <;> rfl

/-! ## Columns and checks -/

/-- The columns of a writer: those it keeps, or else those of its definition. -/
def known (w : Writer) : Except Failure (List Column) :=
  match w.columns with
  | some columns => .ok columns
  | none => w.definition.columns w.types

/-- How the check of the overrides ends. -/
def checked (w : Writer) : Except Failure Unit :=
  if w.validated then .ok ()
  else do
    let columns ← w.known
    checkOverrides w.definition.overrides (columns.map (·.name))

/-- Only the numbers of questions change. -/
theorem perform_learn (w : Writer) : ∃ names infos,
    w.perform learn =
      (w.definition.schema none, { w with nameCalls := names, infoCalls := infos }) := by
  unfold learn Definition.schema
  rw [perform_get_bind]
  dsimp only
  cases w.definition.source with
  | none => exact ⟨_, _, rfl⟩
  | some source =>
    cases w.definition.inputTable.isGiven with
    | false => exact ⟨_, _, rfl⟩
    | true =>
      simp only [Bool.not_true, Bool.false_eq_true, if_false]
      rw [perform_modify_bind, perform_lift_bind]
      cases source.columnNames w.definition.inputTable with
      | error e => exact ⟨_, _, rfl⟩
      | ok names =>
        dsimp only
        rw [perform_modify_bind, perform_lift_bind]
        cases source.columnInfo w.definition.inputTable with
        | error e => exact ⟨_, _, rfl⟩
        | ok entries =>
          dsimp only
          rw [perform_lift_bind, ok_bind, ok_bind]
          cases NameMap.ofEntries entries <;> exact ⟨_, _, rfl⟩

/-- Columns that are described are kept. -/
theorem perform_describeAll (w : Writer) (names : List Value) (info : NameMap ColumnInfo) :
    w.perform (do
        let columns ← describeAll names info
        modify fun w => { w with columns := some columns }
        return columns) =
      (describeAll names info,
        { w with columns := (describeAll names info).toOption.or w.columns }) := by
  rw [perform_lift_bind]
  cases describeAll names info <;> rfl

theorem perform_describe_eq (w : Writer) : ∃ names infos,
    w.perform describe = (w.known, { w with
      columns := w.known.toOption.or w.columns, nameCalls := names, infoCalls := infos }) := by
  unfold describe
  rw [perform_get_bind]
  obtain ⟨definition, types, columns, validated, names, infos, requests, events⟩ := w
  cases columns with
  | some columns => exact ⟨_, _, rfl⟩
  | none =>
    dsimp only
    rw [perform_get_bind]
    cases types with
    | some types => exact ⟨_, _, perform_describeAll _ (types.names.map .text) types⟩
    | none =>
      obtain ⟨n, i, hlearn⟩ := perform_learn
        ⟨definition, none, none, validated, names, infos, requests, events⟩
      refine ⟨n, i, ?_⟩
      dsimp only at hlearn ⊢
      rw [perform_bind, hlearn]
      unfold known Definition.columns
      dsimp only
      cases definition.schema none with
      | error e => rfl
      | ok schema => exact perform_describeAll _ schema.1 schema.2

end Writer

/-! ## Reports of what is known -/

/-- Nothing follows a failure that was reported. -/
theorem Definition.failureReport_bind {α β : Type} (d : Definition) (f : Failure)
    (g : α → Report β) : d.failureReport f >>= g = d.failureReport f := by
  unfold failureReport
  cases f with
  | refused r =>
    dsimp only
    rw [bind_assoc]
    rfl
  | _ => rfl

/-- A report of a failure never ends well: it is the same with whatever comes after it. -/
theorem Definition.failureReport_fails {α : Type} (d : Definition) (f : Failure) :
    ∃ e, (d.failureReport f : Report α).result = .error e := by
  have h := congrArg Report.result
    (d.failureReport_bind f fun _ : α => (Report.throw f : Report α))
  cases hr : (d.failureReport f : Report α).result with
  | error e => exact ⟨e, rfl⟩
  | ok a =>
    rw [Report.bind_of_ok hr, hr] at h
    cases h

/-- Work whose failures are reported ends well only by itself. -/
theorem Definition.rescue_failureReport_eq_ok {α : Type} {d : Definition} {r : Report α} {a : α}
    {events : List Event} (h : r.rescue d.failureReport = ⟨.ok a, events⟩) :
    r = ⟨.ok a, events⟩ := by
  rcases r with ⟨f | b, before⟩
  · obtain ⟨e, he⟩ := d.failureReport_fails (α := α) f
    cases he.symm.trans (Report.mk_eq.1 h).1
  · exact h

/-- What the outcomes of a writer depend on. -/
structure Knowledge where
  definition : Definition
  columns : Except Failure (List Column)
  checked : Except Failure Unit

namespace Knowledge
variable (k : Knowledge)

def typeReport (c : Column) : Report Text := do
  k.checked
  let type ← k.definition.resolve c
  if c.type.isImprovised then
    Report.emit (.improvised k.definition.outputTable c.name c.type.describe type)
  return type

/-- The columns with their types. -/
def typedReport : Report (List (Value × Text)) := do
  let columns ← k.columns
  k.checked
  k.definition.checkPartition columns
  columns.mapM fun c => do return (c.name, ← k.typeReport c)

def createReport : Report Text := do k.definition.createTable (← k.typedReport)

theorem createReport_eq : k.createReport = (do
    let columns ← k.columns
    k.checked
    k.definition.checkPartition columns
    let typed ← columns.mapM fun c => do return (c.name, ← k.typeReport c)
    k.definition.createTable typed) := by
  simp only [createReport, typedReport, bind_assoc]

variable {k} in
/-- What is reported of a column does not depend on the rest of the definition. -/
theorem typeReport_congr {k' : Knowledge} (hchecked : k.checked = k'.checked)
    (htable : k.definition.outputTable = k'.definition.outputTable)
    (hresolve : ∀ c, k.definition.resolve c = k'.definition.resolve c) :
    k.typeReport = k'.typeReport := by
  funext c
  simp only [typeReport, hchecked, hresolve, htable]

variable {k} in
theorem typedReport_congr {k' : Knowledge} (hcolumns : k.columns = k'.columns)
    (hchecked : k.checked = k'.checked)
    (htable : k.definition.outputTable = k'.definition.outputTable)
    (hresolve : ∀ c, k.definition.resolve c = k'.definition.resolve c)
    (hpartition : ∀ l, k.definition.checkPartition l = k'.definition.checkPartition l) :
    k.typedReport = k'.typedReport := by
  simp only [typedReport, hcolumns, hchecked, hpartition,
    typeReport_congr hchecked htable hresolve]

def statementsReport : Report Statements := do
  return ⟨← k.createReport, ← k.definition.loadData⟩

def generateReport : Report Statements := do
  let d := k.definition
  Report.emit (.started 0 d.inputTable d.outputTable d.options.database)
  let statements ← k.statementsReport.rescue d.failureReport
  let columns ← k.columns
  Report.emit (.generated 0 d.outputTable columns.length)
  return statements

variable {k} in
theorem createReport_eq_ok {create : Text} {events : List Event} :
    k.createReport = ⟨.ok create, events⟩ ↔ ∃ typed, k.typedReport = ⟨.ok typed, events⟩ ∧
      k.definition.createTable typed = .ok create := by
  unfold createReport
  rw [Report.bind_eq_ok_iff]
  constructor
  · rintro ⟨typed, _, _, htyped, htable, rfl⟩
    obtain ⟨hcreate, rfl⟩ := Report.lift_eq_iff.1 htable
    exact ⟨typed, by rwa [List.append_nil], hcreate⟩
  · rintro ⟨typed, htyped, hcreate⟩
    exact ⟨typed, _, _, htyped, Report.lift_eq_iff.2 ⟨hcreate, rfl⟩, (List.append_nil _).symm⟩

variable {k} in
theorem statementsReport_eq_ok {s : Statements} {events : List Event} :
    k.statementsReport = ⟨.ok s, events⟩ ↔ k.createReport = ⟨.ok s.createTable, events⟩ ∧
      k.definition.loadData = .ok s.loadData := by
  unfold statementsReport
  rw [Report.bind_eq_ok_iff]
  constructor
  · rintro ⟨create, _, _, hcreate, h, rfl⟩
    obtain ⟨load, hload, hpure⟩ := Report.lift_bind_eq_ok_iff.1 h
    obtain ⟨hs, rfl⟩ := Report.pure_eq_iff.1 hpure
    obtain rfl := Except.ok.inj hs
    exact ⟨by rwa [List.append_nil], hload⟩
  · rintro ⟨hcreate, hload⟩
    refine ⟨_, _, [], hcreate, Report.lift_bind_eq_ok_iff.2 ⟨_, hload, ?_⟩,
      (List.append_nil _).symm⟩
    exact Report.pure_eq_iff.2 ⟨rfl, rfl⟩

variable {k} in
/-- A request that is answered reports its start, then what its statements report, and its end. -/
theorem generateReport_eq_ok {s : Statements} {events : List Event} :
    k.generateReport = ⟨.ok s, events⟩ ↔ ∃ started reported generated columns,
      Report.emit (.started 0 k.definition.inputTable k.definition.outputTable
        k.definition.options.database) = ⟨.ok (), started⟩ ∧
      k.statementsReport = ⟨.ok s, reported⟩ ∧ k.columns = .ok columns ∧
      Report.emit (.generated 0 k.definition.outputTable columns.length) = ⟨.ok (), generated⟩ ∧
      events = started ++ (reported ++ generated) := by
  unfold generateReport
  rw [Report.bind_eq_ok_iff]
  constructor
  · rintro ⟨_, started, _, hstarted, h, rfl⟩
    obtain ⟨found, reported, _, hrescued, hrest, rfl⟩ := Report.bind_eq_ok_iff.1 h
    obtain ⟨columns, hcolumns, hend⟩ := Report.lift_bind_eq_ok_iff.1 hrest
    obtain ⟨_, generated, _, hgenerated, hpure, rfl⟩ := Report.bind_eq_ok_iff.1 hend
    obtain ⟨hs, rfl⟩ := Report.pure_eq_iff.1 hpure
    obtain rfl := Except.ok.inj hs
    exact ⟨started, reported, generated, columns, hstarted,
      Definition.rescue_failureReport_eq_ok hrescued, hcolumns, hgenerated,
      by rw [List.append_nil]⟩
  · rintro ⟨started, reported, generated, columns, hstarted, hstatements, hcolumns, hgenerated, rfl⟩
    refine ⟨(), started, _, hstarted, Report.bind_eq_ok_iff.2 ⟨s, reported, generated, ?_, ?_, rfl⟩,
      rfl⟩
    · rw [hstatements]
      rfl
    · refine Report.lift_bind_eq_ok_iff.2 ⟨columns, hcolumns, Report.bind_eq_ok_iff.2
        ⟨(), generated, [], hgenerated, Report.pure_eq_iff.2 ⟨rfl, rfl⟩, ?_⟩⟩
      exact (List.append_nil _).symm

def fieldsReport : Report (List (String × Text)) := do return (← k.generateReport).fields

end Knowledge

namespace Definition
variable (d : Definition) (types : Option (NameMap ColumnInfo))

/-- What is known of a definition when everything is found out anew. -/
def knowledge : Knowledge := ⟨d, d.columns types, d.validate types⟩

@[simp] theorem knowledge_definition : (d.knowledge types).definition = d := rfl

@[simp] theorem knowledge_columns : (d.knowledge types).columns = d.columns types := rfl

@[simp] theorem knowledge_checked : (d.knowledge types).checked = d.validate types := rfl

theorem resolveReport_eq (c : Column) :
    d.resolveReport types c = (d.knowledge types).typeReport c := by
  simp only [resolveReport, Knowledge.typeReport, knowledge_definition, knowledge_checked]

theorem createReport_eq : d.createReport types = (d.knowledge types).createReport := by
  rw [Knowledge.createReport_eq]
  simp only [createReport, resolveReport_eq, knowledge_definition, knowledge_columns,
    knowledge_checked]

theorem statementsReport_eq : d.statementsReport types = (d.knowledge types).statementsReport := by
  simp only [statementsReport, Knowledge.statementsReport, createReport_eq, knowledge_definition]

theorem generateReport_eq : d.generateReport types = (d.knowledge types).generateReport := by
  unfold generateReport Knowledge.generateReport
  simp only [statementsReport_eq, knowledge_definition, knowledge_columns]

theorem fieldsReport_eq : d.fieldsReport types = (d.knowledge types).fieldsReport := by
  unfold fieldsReport Knowledge.fieldsReport
  rw [generateReport_eq]

end Definition

namespace Writer
variable {α β : Type} {k : Knowledge}

def knowledge (w : Writer) : Knowledge := ⟨w.definition, w.known, w.checked⟩

theorem definition_of_knowledge {w : Writer} (h : w.knowledge = k) : w.definition = k.definition :=
  congrArg Knowledge.definition h

theorem known_of_knowledge {w : Writer} (h : w.knowledge = k) : w.known = k.columns :=
  congrArg Knowledge.columns h

theorem checked_of_knowledge {w : Writer} (h : w.knowledge = k) : w.checked = k.checked :=
  congrArg Knowledge.checked h

/-! ## Yielding a report -/

/-- From a writer to one that knows the same: events are added, and they are those of a report but
for the numbers of requests. -/
structure Adds (w : Writer) (events : List Event) (w' : Writer) : Prop where
  knowledge : w'.knowledge = w.knowledge
  types : w'.types = w.types
  added : ∃ new, w'.events = w.events ++ new ∧ new.map Event.unnumbered = events

/-- An action ends as its report on every writer that knows `k`. -/
def Yields (k : Knowledge) (a : Action α) (r : Report α) : Prop :=
  ∀ w : Writer, w.knowledge = k → ∃ w', w.perform a = (r.result, w') ∧ w.Adds r.events w'

theorem Adds.refl (w : Writer) : w.Adds [] w := ⟨rfl, rfl, [], by simp, rfl⟩

theorem Adds.trans {w w₁ w₂ : Writer} {events₁ events₂ : List Event} (h₁ : w.Adds events₁ w₁)
    (h₂ : w₁.Adds events₂ w₂) : w.Adds (events₁ ++ events₂) w₂ := by
  obtain ⟨new₁, hw₁, hnew₁⟩ := h₁.added
  obtain ⟨new₂, hw₂, hnew₂⟩ := h₂.added
  refine ⟨h₂.knowledge.trans h₁.knowledge, h₂.types.trans h₁.types, new₁ ++ new₂, ?_, ?_⟩
  · rw [hw₂, hw₁, List.append_assoc]
  · rw [List.map_append, hnew₁, hnew₂]

namespace Yields

protected theorem pure (x : α) : Yields k (pure x) (pure x) := fun w _ => ⟨w, rfl, .refl w⟩

protected theorem throw (e : Failure) :
    Yields k (throw e : Action α) (liftM (.error e : Except Failure α)) :=
  fun w _ => ⟨w, rfl, .refl w⟩

theorem lift (r : Except Failure α) : Yields k (liftM r) (liftM r) := fun w _ => ⟨w, rfl, .refl w⟩

/-- The rest may use how the first part ended. -/
theorem bind_of_ok {a : Action α} {r : Report α} {f : α → Action β} {s : α → Report β}
    (ha : Yields k a r) (hf : ∀ x, r.result = .ok x → Yields k (f x) (s x)) :
    Yields k (a >>= f) (r >>= s) := by
  intro w hw
  obtain ⟨w₁, hrun, hadds⟩ := ha w hw
  rw [perform_bind, hrun]
  cases hr : r.result with
  | error e =>
    rw [Report.bind_of_error hr]
    exact ⟨w₁, rfl, hadds⟩
  | ok x =>
    obtain ⟨w₂, hrun₂, hadds₂⟩ := hf x hr w₁ (hadds.knowledge.trans hw)
    rw [Report.bind_of_ok hr]
    exact ⟨w₂, hrun₂, hadds.trans hadds₂⟩

protected theorem bind {a : Action α} {r : Report α} {f : α → Action β} {s : α → Report β}
    (ha : Yields k a r) (hf : ∀ x, Yields k (f x) (s x)) : Yields k (a >>= f) (r >>= s) :=
  bind_of_ok ha fun x _ => hf x

protected theorem tryCatch {a : Action α} {r : Report α} {f : Failure → Action α}
    {s : Failure → Report α} (ha : Yields k a r) (hf : ∀ e, Yields k (f e) (s e)) :
    Yields k (tryCatch a f) (r.rescue s) := by
  intro w hw
  obtain ⟨w₁, hrun, hadds⟩ := ha w hw
  rw [perform_tryCatch, hrun]
  unfold Report.rescue
  cases r.result with
  | ok x => exact ⟨w₁, rfl, hadds⟩
  | error e =>
    obtain ⟨w₂, hrun₂, hadds₂⟩ := hf e w₁ (hadds.knowledge.trans hw)
    exact ⟨w₂, hrun₂, hadds.trans hadds₂⟩

theorem mapM {f : α → Action β} {s : α → Report β} (h : ∀ x, Yields k (f x) (s x)) (l : List α) :
    Yields k (l.mapM f) (l.mapM s) := by
  induction l with
  | nil => exact .pure []
  | cons x rest ih =>
    rw [List.mapM_cons, List.mapM_cons]
    exact .bind (h x) fun y => .bind ih fun ys => .pure (y :: ys)

/-- What is read of a writer is only what it knows. -/
theorem get_bind {f : Writer → Action α} {r : Report α}
    (h : ∀ w : Writer, w.knowledge = k → Yields k (f w) r) : Yields k (get >>= f) r := by
  intro w hw
  rw [perform_get_bind]
  exact h w hw w hw

/-- Changes beside what is known are not seen. -/
protected theorem modify {f : Writer → Writer}
    (h : ∀ w : Writer, w.knowledge = k →
      (f w).knowledge = w.knowledge ∧ (f w).types = w.types ∧ (f w).events = w.events) :
    Yields k (modify f) (pure ()) := by
  intro w hw
  obtain ⟨hknowledge, htypes, hevents⟩ := h w hw
  exact ⟨f w, rfl, hknowledge, htypes, [], by simp [hevents], rfl⟩

theorem modify_bind {f : Writer → Writer} {a : Unit → Action α} {r : Report α}
    (h : ∀ w : Writer, w.knowledge = k →
      (f w).knowledge = w.knowledge ∧ (f w).types = w.types ∧ (f w).events = w.events)
    (ha : Yields k (a ()) r) : Yields k (modify f >>= a) r := by
  rw [← pure_bind () fun _ => r]
  exact .bind (.modify h) fun _ => ha

/-- Two parts that only end in a value or a failure do so together. -/
theorem lift_bind {a : Action α} {x : Except Failure α} {f : α → Action β}
    {g : α → Except Failure β} (ha : Yields k a (liftM x))
    (hf : ∀ v, x = .ok v → Yields k (f v) (liftM (g v))) :
    Yields k (a >>= f) (liftM (x >>= g)) := by
  rw [Report.lift_bind]
  exact bind_of_ok ha hf

end Yields

/-! ## The actions -/

theorem emit_yields (e : Event) : Yields k (emit e) (Report.emit e.unnumbered) := by
  intro w _
  rw [perform_emit]
  unfold Report.emit
  rw [Event.text_unnumbered]
  cases e.text (fun _ => "") .zero with
  | error f => exact ⟨w, rfl, .refl w⟩
  | ok s => exact ⟨_, rfl, rfl, rfl, [e], rfl, rfl⟩

/-- Columns that are described are those that were known. -/
theorem known_described (w : Writer) (names infos : Nat) :
    known { w with
      columns := w.known.toOption.or w.columns, nameCalls := names, infoCalls := infos } =
      w.known := by
  unfold known
  obtain ⟨definition, types, columns, validated, -, -, requests, events⟩ := w
  cases columns with
  | some columns => rfl
  | none =>
    dsimp only
    cases definition.columns types <;> rfl

theorem describe_yields : Yields k describe (liftM k.columns) := by
  rintro w rfl
  obtain ⟨names, infos, hrun⟩ := perform_describe_eq w
  have hknown := known_described w names infos
  refine ⟨_, hrun, ?_, rfl, [], by simp, rfl⟩
  unfold knowledge checked
  rw [hknown]

theorem validate_yields : Yields k validate (liftM k.checked) := by
  unfold validate
  refine .get_bind fun w hw => ?_
  cases hvalidated : w.validated with
  | true =>
    have hchecked : k.checked = .ok () := by
      rw [← checked_of_knowledge hw, checked, hvalidated]
      rfl
    rw [hchecked]
    exact .pure ()
  | false =>
    have hchecked : k.checked = k.columns >>= fun columns =>
        checkOverrides k.definition.overrides (columns.map (·.name)) := by
      rw [← hw]
      show w.checked = _
      rw [checked, hvalidated]
      rfl
    rw [hchecked]
    refine .lift_bind describe_yields fun columns hcolumns => ?_
    refine .get_bind fun w hw => ?_
    rw [definition_of_knowledge hw]
    cases hok : checkOverrides k.definition.overrides (columns.map (·.name)) with
    | error e => exact .throw e
    | ok _ =>
      refine .modify fun w hw => ⟨?_, rfl, rfl⟩
      have hkept : w.checked = .ok () := by
        rw [checked_of_knowledge hw, hchecked, hcolumns]
        exact hok
      exact congrArg (Knowledge.mk w.definition w.known) hkept.symm

theorem resolve_yields (c : Column) : Yields k (resolve c) (k.typeReport c) := by
  unfold resolve Knowledge.typeReport
  refine .bind validate_yields fun _ => ?_
  refine .get_bind fun w hw => ?_
  rw [definition_of_knowledge hw]
  refine .bind (.lift _) fun type => ?_
  by_cases himprovised : c.type.isImprovised = true
  · simp only [himprovised, if_true]
    exact .bind (emit_yields _) fun _ => .pure type
  · simp only [himprovised]
    exact .pure type

theorem createTable_yields : Yields k createTable k.createReport := by
  rw [Knowledge.createReport_eq]
  unfold createTable
  refine .bind describe_yields fun columns => ?_
  refine .bind validate_yields fun _ => ?_
  refine .get_bind fun w hw => ?_
  rw [definition_of_knowledge hw]
  refine .bind (.lift _) fun _ => ?_
  refine .bind (.mapM (fun c => .bind (resolve_yields c) fun type => .pure _) columns)
    fun typed => ?_
  refine .get_bind fun w hw => ?_
  rw [definition_of_knowledge hw]
  exact .lift _

theorem loadData_yields : Yields k loadData (liftM k.definition.loadData) := by
  unfold loadData
  refine .get_bind fun w hw => ?_
  rw [definition_of_knowledge hw]
  exact .lift _

theorem sourcePath_yields : Yields k sourcePath (liftM k.definition.sourcePath) := by
  unfold sourcePath
  refine .get_bind fun w hw => ?_
  rw [definition_of_knowledge hw]
  exact .lift _

theorem statements_yields : Yields k statements k.statementsReport := by
  unfold statements Knowledge.statementsReport
  refine .bind createTable_yields fun create => ?_
  exact .bind loadData_yields fun load => .pure _

theorem generate_yields : Yields k generate k.generateReport := by
  unfold generate Knowledge.generateReport
  refine .get_bind fun w hw => ?_
  refine .modify_bind (fun w hw => ⟨rfl, rfl, rfl⟩) ?_
  refine .get_bind fun w hw => ?_
  rw [definition_of_knowledge hw]
  refine .bind (emit_yields _) fun _ => ?_
  refine .bind (.tryCatch statements_yields fun f => ?_) fun statements => ?_
  · unfold Definition.failureReport
    cases f with
    | refused r => exact .bind (emit_yields _) fun _ => .throw _
    | _ => exact .throw _
  refine .bind describe_yields fun columns => ?_
  exact .bind (emit_yields _) fun _ => .pure statements

theorem generateFields_yields : Yields k generateFields k.fieldsReport := by
  unfold generateFields Knowledge.fieldsReport
  exact .bind generate_yields fun statements => .pure statements.fields

end Writer

end HiveTable
