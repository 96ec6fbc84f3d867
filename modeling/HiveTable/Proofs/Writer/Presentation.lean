import HiveTable.Proofs.Writer.Faults
import HiveTable.Proofs.Writer.Trace

/-!
# What presentation can change

Where the files are, how the table is named and placed and what else is written around its columns
is presentation. What a request finds besides is its `Content`: the columns with their types, the
row format and the storage clause. A request ends as its content does, whatever the presentation,
and its statements are the content presented (`Generates`). Writers that differ in presentation
only find the same content, after any run of calls on both (`presentation_unseen`).
-/

namespace HiveTable

/-! ## Content -/

structure Content where
  columns : List (Value × Text)
  row : String
  storage : String

namespace Definition

/-- The statements that are made of a content. -/
def present (d : Definition) (location load : Text) (c : Content) : Statements :=
  ⟨d.close (d.heading c.columns ++ c.row ++ " " ++ c.storage ++ location), load⟩

/-- Definitions that may differ in presentation. -/
structure SameContent (d d' : Definition) : Prop where
  source : d.source = d'.source
  inputTable : d.inputTable = d'.inputTable
  outputTable : d.outputTable = d'.outputTable
  overrides : d.overrides = d'.overrides
  partitionKey : d.options.partitionKey = d'.options.partitionKey
  codec : d.options.codec = d'.options.codec
  fieldDelimiter : d.options.fieldDelimiter = d'.options.fieldDelimiter
  lineDelimiter : d.options.lineDelimiter = d'.options.lineDelimiter

/-- Definitions that may differ in what is not written into the statement that creates the
table. -/
structure SameCreate (d d' : Definition) : Prop extends SameContent d d' where
  database : d.options.database = d'.options.database
  externalDir : d.options.externalDir = d'.options.externalDir
  failIfExists : d.options.failIfExists = d'.options.failIfExists
  withComments : d.withComments = d'.withComments
  clock : d.withComments = true → d.clock = d'.clock
  terminate : d.terminate = d'.terminate

/-- Definitions that may differ in what is not written into the statement that loads the data. -/
structure SameLoad (d d' : Definition) : Prop where
  inputTable : d.inputTable = d'.inputTable
  outputTable : d.outputTable = d'.outputTable
  targetDir : d.options.targetDir = d'.options.targetDir
  warehouseDir : d.options.warehouseDir = d'.options.warehouseDir
  database : d.options.database = d'.options.database
  partitionKey : d.options.partitionKey = d'.options.partitionKey
  partitionValue : d.options.partitionValue = d'.options.partitionValue
  overwrite : d.options.overwrite = d'.options.overwrite
  terminate : d.terminate = d'.terminate

variable {d d' : Definition}

theorem SameContent.columns (h : SameContent d d') (types : Option (NameMap ColumnInfo)) :
    d.columns types = d'.columns types := by
  unfold Definition.columns schema
  rw [h.source, h.inputTable]

theorem SameContent.resolve (h : SameContent d d') (c : Column) : d.resolve c = d'.resolve c := by
  unfold Definition.resolve
  rw [h.overrides]

theorem SameContent.checkPartition (h : SameContent d d') (columns : List Column) :
    d.checkPartition columns = d'.checkPartition columns := by
  unfold Definition.checkPartition
  rw [h.partitionKey]

theorem SameContent.rowFormat (h : SameContent d d') : d.rowFormat = d'.rowFormat := by
  unfold Definition.rowFormat
  rw [h.fieldDelimiter, h.lineDelimiter]

theorem SameContent.storage (h : SameContent d d') : d.storage = d'.storage := by
  unfold Definition.storage
  rw [h.codec]

theorem SameContent.failureReport {α : Type} (h : SameContent d d') :
    (d.failureReport : Failure → Report α) = d'.failureReport := by
  funext f
  unfold Definition.failureReport
  rw [h.outputTable]

theorem tableName_congr (hdatabase : d.options.database = d'.options.database)
    (htable : d.outputTable = d'.outputTable) : d.tableName = d'.tableName := by
  unfold tableName
  rw [hdatabase, htable]

theorem close_congr (h : d.terminate = d'.terminate) : d.close = d'.close := by
  funext statement
  unfold close
  rw [h]

theorem SameCreate.createTable (h : SameCreate d d') (columns : List (Value × Text)) :
    d.createTable columns = d'.createTable columns := by
  have hname := tableName_congr h.database h.outputTable
  have hcomment : (if d.withComments then
        "COMMENT 'Imported by hiveddl on " ++ stamp d.clock ++ "' " else "") =
      (if d'.withComments then
        "COMMENT 'Imported by hiveddl on " ++ stamp d'.clock ++ "' " else "" : String) := by
    rw [← h.withComments]
    split
    · rename_i hcomments
      rw [h.clock hcomments]
    · rfl
  have hheading : d.heading columns = d'.heading columns := by
    unfold heading
    rw [h.externalDir, h.failIfExists, h.partitionKey, hname, hcomment]
  have hlocation : d.location = d'.location := by
    unfold location
    rw [h.externalDir]
  unfold Definition.createTable
  rw [h.rowFormat, h.storage, hlocation, hheading, close_congr h.terminate]

theorem SameLoad.loadData (h : SameLoad d d') : d.loadData = d'.loadData := by
  have hpath : d.sourcePath = d'.sourcePath := by
    unfold sourcePath
    rw [h.targetDir, h.inputTable, h.outputTable, h.warehouseDir]
  have hname := tableName_congr h.database h.outputTable
  unfold Definition.loadData
  rw [hpath, hname, close_congr h.terminate, h.overwrite, h.partitionKey, h.partitionValue]

end Definition

/-! ## Reports -/

namespace Knowledge
variable {k k' : Knowledge}

def contentReport (k : Knowledge) : Report Content := do
  let columns ← k.typedReport
  let row ← k.definition.rowFormat
  let storage ← k.definition.storage
  return ⟨columns, row, storage⟩

/-- What a request reports behind its start. -/
def answerReport (k : Knowledge) : Report Content := do
  let content ← k.contentReport.rescue k.definition.failureReport
  let columns ← k.columns
  Report.emit (.generated 0 k.definition.outputTable columns.length)
  return content

theorem statementsReport_eq {location load : Text}
    (hlocation : k.definition.location = .ok location) (hload : k.definition.loadData = .ok load) :
    k.statementsReport = k.definition.present location load <$> k.contentReport := by
  have hcreate : ∀ columns, (liftM (k.definition.createTable columns) : Report Text) = (do
      let row ← k.definition.rowFormat
      let storage ← k.definition.storage
      return (k.definition.present location load ⟨columns, row, storage⟩).createTable) := by
    intro columns
    unfold Definition.createTable
    rw [hlocation, Report.lift_bind]
    simp only [Report.lift_bind]
    rfl
  unfold statementsReport createReport contentReport
  simp only [hcreate, hload, map_bind, bind_assoc]
  rfl

theorem generateReport_eq {location load : Text} (hlocation : k.definition.location = .ok location)
    (hload : k.definition.loadData = .ok load) :
    k.generateReport = (do
      Report.emit (.started 0 k.definition.inputTable k.definition.outputTable
        k.definition.options.database)
      k.definition.present location load <$> k.answerReport) := by
  have hrescued : k.statementsReport.rescue k.definition.failureReport =
      k.definition.present location load <$>
        k.contentReport.rescue k.definition.failureReport := by
    rw [statementsReport_eq hlocation hload]
    refine Report.rescue_map _ _ _ _ fun f => ?_
    rw [map_eq_pure_bind, Definition.failureReport_bind]
  unfold generateReport answerReport
  simp only [hrescued, map_bind, bind_map_left, map_pure]

/-- Work that succeeds found the clauses of its definition. -/
theorem contentReport_ok {content : Content} {events : List Event}
    (h : k.contentReport = ⟨.ok content, events⟩) :
    k.definition.rowFormat = .ok content.row ∧ k.definition.storage = .ok content.storage := by
  obtain ⟨columns, _, _, -, h, -⟩ := Report.bind_eq_ok_iff.1 h
  obtain ⟨row, hrow, h⟩ := Report.lift_bind_eq_ok_iff.1 h
  obtain ⟨storage, hstorage, h⟩ := Report.lift_bind_eq_ok_iff.1 h
  obtain rfl := Except.ok.inj (Report.pure_eq_iff.1 h).1
  exact ⟨hrow, hstorage⟩

theorem answerReport_ok {content : Content} {events : List Event}
    (h : k.answerReport = ⟨.ok content, events⟩) :
    k.definition.rowFormat = .ok content.row ∧ k.definition.storage = .ok content.storage := by
  obtain ⟨found, _, _, hrescued, h, -⟩ := Report.bind_eq_ok_iff.1 h
  obtain ⟨columns, -, h⟩ := Report.lift_bind_eq_ok_iff.1 h
  obtain ⟨_, _, _, -, hpure, -⟩ := Report.bind_eq_ok_iff.1 h
  obtain rfl := Except.ok.inj (Report.pure_eq_iff.1 hpure).1
  exact contentReport_ok (Definition.rescue_failureReport_eq_ok hrescued)

/-- What writers know that may differ in presentation. -/
structure SameContent (k k' : Knowledge) : Prop where
  definition : Definition.SameContent k.definition k'.definition
  columns : k.columns = k'.columns
  checked : k.checked = k'.checked

namespace SameContent

theorem typedReport (h : SameContent k k') : k.typedReport = k'.typedReport :=
  typedReport_congr h.columns h.checked h.definition.outputTable h.definition.resolve
    h.definition.checkPartition

theorem answerReport (h : SameContent k k') : k.answerReport = k'.answerReport := by
  unfold Knowledge.answerReport contentReport
  rw [h.typedReport, h.columns, h.definition.rowFormat, h.definition.storage,
    h.definition.failureReport, h.definition.outputTable]

end SameContent

end Knowledge

/-! ## Writers -/

namespace Writer
variable {w w' : Writer}

/-- A request of a writer ends as what it finds does, with the statements that are made of it, and
reports its start and then `events`. -/
structure Generates (w : Writer) (found : Except Failure Content) (events : List Event) : Prop where
  outcome : ∃ location load, w.definition.location = .ok location ∧
    w.definition.loadData = .ok load ∧
    w.outcome .generate =
      (found.map fun content => .statements (w.definition.present location load content),
        w.startedEvent.unnumbered :: events)
  clauses : ∀ content, found = .ok content →
    w.definition.rowFormat = .ok content.row ∧ w.definition.storage = .ok content.storage

theorem generates (h : w.definition.Placed) :
    w.Generates w.knowledge.answerReport.result w.knowledge.answerReport.events := by
  obtain ⟨location, hlocation⟩ := Definition.location_ok h
  obtain ⟨load, hload⟩ := Definition.loadData_ok h
  obtain ⟨_, hstarted, -⟩ := Definition.emit_started_ends h
  have hevents := Report.emit_eq_ok (Report.mk_eq.2 ⟨hstarted, rfl⟩)
  have hgenerate : w.knowledge.generateReport =
      ⟨w.knowledge.answerReport.result.map (w.definition.present location load),
        w.startedEvent.unnumbered :: w.knowledge.answerReport.events⟩ := by
    rw [Knowledge.generateReport_eq hlocation hload]
    refine (Report.bind_of_ok hstarted _).trans ?_
    rw [hevents, Report.result_map, Report.events_map]
    rfl
  refine ⟨⟨location, load, hlocation, hload, ?_⟩, fun content hfound => ?_⟩
  · rw [outcome_generate, hgenerate]
    cases w.knowledge.answerReport.result <;> rfl
  · exact Knowledge.answerReport_ok (Report.mk_eq.2 ⟨hfound, rfl⟩)

/-- The statement that creates the table depends on what is written into it only. -/
theorem outcome_createTable_congr (h : Knowledge.SameContent w.knowledge w'.knowledge)
    (hcreate : Definition.SameCreate w.definition w'.definition) :
    w.outcome .createTable = w'.outcome .createTable := by
  have hreport : w.knowledge.createReport = w'.knowledge.createReport := by
    unfold Knowledge.createReport
    rw [h.typedReport]
    exact congrArg (w'.knowledge.typedReport >>= ·) (funext fun columns => by
      exact congrArg liftM (hcreate.createTable columns))
  rw [outcome_eq_knowledge, outcome_eq_knowledge]
  unfold Knowledge.report
  simp only [hreport]

theorem outcome_loadData_congr (h : Definition.SameLoad w.definition w'.definition) :
    w.outcome .loadData = w'.outcome .loadData := by
  rw [outcome_eq_knowledge, outcome_eq_knowledge]
  unfold Knowledge.report knowledge
  simp only [h.loadData]

/-- Writers that differ in presentation only keep the same otherwise, and their tables and
directories are texts where they are given. After any run of calls on both, a request finds the
same content on both, or fails the same, and reports the same behind its start. The statement that
creates the table is the same if all that is written into it is, the time only if comments are
written; and whatever else two writers differ in, so is the statement that loads the data. -/
theorem presentation_unseen (hdefinition : Definition.SameContent w.definition w'.definition)
    (htypes : w.types = w'.types) (hcolumns : w.columns = w'.columns)
    (hvalidated : w.validated = w'.validated) (hplaced : w.definition.Placed)
    (hplaced' : w'.definition.Placed) (calls : List Call) :
    let v := w.after calls
    let v' := w'.after calls
    (∃ found events, v.Generates found events ∧ v'.Generates found events) ∧
    (Definition.SameCreate w.definition w'.definition →
      v.outcome .createTable = v'.outcome .createTable ∧
      ∀ s s', (v.outcome .generate).1 = .ok (.statements s) →
        (v'.outcome .generate).1 = .ok (.statements s') → s.createTable = s'.createTable) ∧
    ∀ u u' : Writer, Definition.SameLoad u.definition u'.definition →
      u.outcome .loadData = u'.outcome .loadData ∧
      ∀ s s', (u.outcome .generate).1 = .ok (.statements s) →
        (u'.outcome .generate).1 = .ok (.statements s') → s.loadData = s'.loadData := by
  intro v v'
  obtain ⟨hv, hv', hknown, hchecked⟩ :=
    after_kept w w' hdefinition.columns hdefinition.overrides htypes hcolumns hvalidated calls
  have hsame : Knowledge.SameContent v.knowledge v'.knowledge :=
    ⟨by show Definition.SameContent v.definition v'.definition; rwa [hv, hv'], hknown, hchecked⟩
  refine ⟨⟨_, _, generates (w := v) (hv ▸ hplaced), ?_⟩, fun hcreate => ?_, fun u u' hload => ?_⟩
  · rw [hsame.answerReport]
    exact generates (hv' ▸ hplaced')
  · have houtcome := outcome_createTable_congr hsame (by rwa [hv, hv'])
    refine ⟨houtcome, fun s s' hs hs' => ?_⟩
    have htext := (outcome_of_generate hs).1
    rw [houtcome, (outcome_of_generate hs').1] at htext
    exact (Reply.text.inj (Except.ok.inj htext)).symm
  · have houtcome := outcome_loadData_congr hload
    refine ⟨houtcome, fun s s' hs hs' => ?_⟩
    have htext := (outcome_of_generate hs).2
    rw [houtcome, (outcome_of_generate hs').2] at htext
    exact (Reply.text.inj (Except.ok.inj htext)).symm

/-- A table elsewhere, under another name and with comments has the same content; files elsewhere
do not change how it is created; and its codec does not change how they are loaded. -/
theorem presentation_unseen_elsewhere :
    let source := SchemaSource.fixed [.text "id"] [(.text "id", .value (.text "DATE"))]
    let options : Options := { partitionKey := .text "day", partitionValue := .text "1" }
    let moved : Options := { options with
      targetDir := .text "files", partitionValue := .text "2", overwrite := .bool true }
    let external : Options := { moved with
      database := .text "db", externalDir := .text "/tables", failIfExists := .bool true }
    let make (options : Options) (withComments : Bool) (year : Nat) : Writer :=
      { definition := ⟨options, some source, .text "in", .text "out", withComments, false,
          ⟨⟨year, 1, 1⟩, 0, 0, 0, 0, none⟩, ∅⟩ }
    (∃ found events, (make options false 2024).Generates found events ∧
      (make external true 2025).Generates found events) ∧
    (make options false 2024).outcome .createTable = (make moved false 2025).outcome .createTable ∧
    (make options false 2024).outcome .loadData =
      (make { options with codec := .text "lzop" } true 2025).outcome .loadData := by
  intro source options moved external make
  have hplaced : ∀ options withComments year, options.warehouseDir = .text "/user/hive/staging" →
      options.targetDir.IsOptionalText → options.database.IsOptionalText →
      options.externalDir.IsOptionalText → (make options withComments year).definition.Placed :=
    fun _ _ _ hwarehouse htarget hdatabase hexternal =>
      ⟨.inr ⟨_, rfl⟩, ⟨_, rfl⟩, ⟨_, hwarehouse⟩, htarget, hdatabase, hexternal⟩
  have hoptions := hplaced options false 2024 rfl (.inl rfl) (.inl rfl) (.inl rfl)
  have hexternal := @presentation_unseen (make options false 2024)
    (make external true 2025) ⟨rfl, rfl, rfl, rfl, rfl, rfl, rfl, rfl⟩ rfl rfl rfl hoptions
    (hplaced external true 2025 rfl (.inr ⟨_, rfl⟩) (.inr ⟨_, rfl⟩) (.inr ⟨_, rfl⟩)) []
  have hmoved := @presentation_unseen (make options false 2024)
    (make moved false 2025) ⟨rfl, rfl, rfl, rfl, rfl, rfl, rfl, rfl⟩ rfl rfl rfl hoptions
    (hplaced moved false 2025 rfl (.inr ⟨_, rfl⟩) (.inl rfl) (.inl rfl)) []
  refine ⟨hexternal.1, (hmoved.2.1 ⟨⟨rfl, rfl, rfl, rfl, rfl, rfl, rfl, rfl⟩, rfl, rfl, rfl, rfl,
    ?_, rfl⟩).1, (hmoved.2.2 _ _ ⟨rfl, rfl, rfl, rfl, rfl, rfl, rfl, rfl, rfl⟩).1⟩
  rintro ⟨⟩

end Writer

end HiveTable
