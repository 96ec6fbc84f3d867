import HiveTable.Proofs.Request.Columns
import HiveTable.Proofs.Request.Options
import HiveTable.Proofs.Script.Outcome

/-!
# Scripts and answers agree

A configuration holds a request under the names that it shares with requests. Its script then has
the statements of that request, with a semicolon behind each, and where the request fails, the run
over the configuration fails in the same way (`make_agrees`). The work on a definition does not
depend on whether its statements are terminated (`generateReport_terminated`), and what a
configuration puts where a value is missing defines what is defined without it
(`defined_terminated`).
-/

namespace HiveTable

/-! ## Closed statements -/

/-- The statements with a semicolon behind each. -/
def Statements.terminated (s : Statements) : Statements :=
  ⟨s.createTable ++ ";", s.loadData ++ ";"⟩

def Answer.terminated (a : Answer) : Answer := { a with statements := a.statements.terminated }

namespace Definition
variable {d : Definition} {types : Option (NameMap ColumnInfo)}

def terminated (d : Definition) : Definition := { d with terminate := true }

theorem close_terminated (h : d.terminate = false) (statement : Text) :
    d.terminated.close statement = d.close statement ++ ";" := by
  simp [close, terminated, h]

theorem createTable_terminated (h : d.terminate = false) (columns : List (Value × Text)) :
    d.terminated.createTable columns = (· ++ Text.ofString ";") <$> d.createTable columns := by
  have hrow : d.terminated.rowFormat = d.rowFormat := rfl
  have hstorage : d.terminated.storage = d.storage := rfl
  have hlocation : d.terminated.location = d.location := rfl
  have hheading : d.terminated.heading columns = d.heading columns := rfl
  simp only [createTable, hrow, hstorage, hlocation, hheading, close_terminated h, map_bind,
    map_pure]

theorem loadData_terminated (h : d.terminate = false) :
    d.terminated.loadData = (· ++ Text.ofString ";") <$> d.loadData := by
  have hsource : d.terminated.sourcePath = d.sourcePath := rfl
  have hname : d.terminated.tableName = d.tableName := rfl
  have hoptions : d.terminated.options = d.options := rfl
  simp only [loadData, hsource, hname, hoptions, close_terminated h, map_bind, map_pure]

end Definition

namespace Definition
variable {d : Definition} {types : Option (NameMap ColumnInfo)}

theorem columns_terminated : d.terminated.columns types = d.columns types := rfl

theorem validate_terminated : d.terminated.validate types = d.validate types := rfl

theorem resolveReport_terminated (c : Column) :
    d.terminated.resolveReport types c = d.resolveReport types c := by
  have hresolve : d.terminated.resolve c = d.resolve c := rfl
  have htable : d.terminated.outputTable = d.outputTable := rfl
  simp only [resolveReport, validate_terminated, hresolve, htable]

theorem createReport_terminated (h : d.terminate = false) :
    d.terminated.createReport types = (· ++ Text.ofString ";") <$> d.createReport types := by
  have hpartition (columns : List Column) :
      d.terminated.checkPartition columns = d.checkPartition columns := rfl
  simp only [createReport, columns_terminated, validate_terminated, hpartition,
    resolveReport_terminated, createTable_terminated h, Report.lift_map, map_bind]

theorem statementsReport_terminated (h : d.terminate = false) :
    d.terminated.statementsReport types = Statements.terminated <$> d.statementsReport types := by
  simp only [statementsReport, createReport_terminated h, loadData_terminated h, Report.lift_map,
    map_bind, map_pure, bind_map_left]
  rfl

theorem failureReport_terminated (f : Failure) :
    d.terminated.failureReport f =
      Statements.terminated <$> (d.failureReport f : Report Statements) := by
  cases f with
  | refused r =>
    simp only [failureReport, map_bind]
    rfl
  | _ => rfl

/-- Work on a definition with terminated statements reports what that on the definition does, and
ends with its statements terminated. -/
theorem generateReport_terminated (h : d.terminate = false) :
    d.terminated.generateReport types = Statements.terminated <$> d.generateReport types := by
  have hin : d.terminated.inputTable = d.inputTable := rfl
  have hout : d.terminated.outputTable = d.outputTable := rfl
  have hoptions : d.terminated.options = d.options := rfl
  simp only [generateReport, hin, hout, hoptions, columns_terminated,
    statementsReport_terminated h, Report.rescue_map _ _ _ _ failureReport_terminated, map_bind,
    map_pure, bind_map_left]

end Definition

/-! ## Answers to the same fields -/

theorem Request.answer_fst (clock : Moment) (request : Value) :
    (answer clock request).1 = definition clock request >>= fun d =>
      (Answer.mk d.inputTable d.outputTable ·) <$> (d.generateReport none).result := by
  cases hd : definition clock request with
  | error f =>
    rw [answer, hd]
    cases f <;> rfl
  | ok d =>
    obtain ⟨w, hrun, -⟩ := Writer.generate_follows _ (Writer.coherent_new d)
    rw [answer_of_definition hd, hrun, ok_bind]
    rfl

namespace Request

/-- What the values under the names of a request define. -/
def defined (clock : Moment) (value : String → Value) : Except Failure Definition := do
  if !(value "input_table").isGiven then throw (.refused .noInputTable)
  let outputTable :=
    if (value "output_table").isGiven then value "output_table" else value "input_table"
  let specs ← match (value "columns").opened with
    | .null => pure (.list [])
    | .list specs => pure (.list specs)
    | _ => throw (.refused .columnsNotList)
  let catalog ← (Catalog.ofSpecs (value "input_table") specs).mapError fun
    | .column fault => .refused (.column fault)
    | f => f
  let options ← Options.ofValue (value "options")
  Definition.make options (some catalog.source) (value "input_table") outputTable
    (value "with_comments").isGiven (value "terminate_statements").isGiven clock

theorem definition_eq_defined (clock : Moment) {request : Value} {fields : Entries Value}
    (hopened : request.opened = .mapping fields)
    (hnames : Options.checkNames isKey .unknownRequestKeys (fields.map (·.1)) = .ok ()) :
    definition clock request = defined clock fun name => (fields.field? name).getD .null := by
  unfold definition defined
  rw [hopened]
  dsimp only
  rw [hnames]
  rfl

theorem checkNames_map {fields : List (String × Value)} (h : ∀ f ∈ fields, isKey f.1 = true) :
    Options.checkNames isKey .unknownRequestKeys
      ((fields.map fun f => (Value.text f.1, f.2)).map (·.1)) = .ok () := by
  refine Options.checkNames_eq_ok.2 fun v hv => ?_
  rw [List.map_map] at hv
  obtain ⟨f, hf, rfl⟩ := List.mem_map.1 hv
  exact ⟨f.1, rfl, h f hf⟩

theorem make_terminated (options : Options) (source : Option SchemaSource)
    (inputTable outputTable : Value) (withComments : Bool) (clock : Moment) :
    Definition.make options source inputTable outputTable withComments true clock =
      Definition.terminated <$>
        Definition.make options source inputTable outputTable withComments false clock := by
  unfold Definition.make
  split
  · rfl
  · simp only [map_bind]
    rfl

/-- A mapping or a list that is empty defines what is defined without it. -/
theorem defined_terminated (clock : Moment) {value closed : String → Value}
    (hinput : closed "input_table" = value "input_table")
    (houtput : closed "output_table" = value "output_table")
    (hcolumns : closed "columns" = value "columns" ∨
      closed "columns" = .list [] ∧ value "columns" = .null)
    (hoptions : closed "options" = value "options" ∨
      closed "options" = .mapping [] ∧ value "options" = .null)
    (hcomments : (closed "with_comments").isGiven = (value "with_comments").isGiven)
    (hclosed : (closed "terminate_statements").isGiven = true)
    (hopen : (value "terminate_statements").isGiven = false) :
    defined clock closed = Definition.terminated <$> defined clock value := by
  have hsame : Options.ofValue (closed "options") = Options.ofValue (value "options") := by
    rcases hoptions with h | ⟨h, h'⟩
    · rw [h]
    · rw [h, h']
      rfl
  unfold defined
  rw [hinput, houtput, hsame, hcomments, hclosed, hopen]
  simp only [make_terminated]
  split
  · rfl
  · rcases hcolumns with h | ⟨h, h'⟩
    · rw [h]
      split
      · simp only [map_bind]
      · simp only [map_bind]
      · rfl
    · rw [h, h']
      dsimp only [Value.opened]
      simp only [map_bind]

theorem terminate_of_defined {clock : Moment} {value : String → Value} {d : Definition}
    (h : defined clock value = .ok d) :
    d.terminate = (value "terminate_statements").isGiven := by
  have hmake : ∀ {options : Options} {source : Option SchemaSource}
      {inputTable outputTable : Value} {withComments terminate : Bool},
      Definition.make options source inputTable outputTable withComments terminate clock = .ok d →
        d.terminate = terminate := by
    intro options source inputTable outputTable withComments terminate h
    unfold Definition.make at h
    split at h
    · cases h
    · obtain ⟨overrides, -, h⟩ := bind_eq_ok.1 h
      obtain rfl := Except.ok.inj h
      rfl
  unfold defined at h
  dsimp only at h
  split at h
  · cases h
  split at h
  case h_3 => cases h
  all_goals
    obtain ⟨_, -, h⟩ := bind_eq_ok.1 h
    obtain ⟨_, -, h⟩ := bind_eq_ok.1 h
    obtain ⟨_, -, h⟩ := bind_eq_ok.1 h
    exact hmake h

end Request

namespace Script

/-- The names that configurations and requests share. -/
def sharedNames : List String :=
  ["input_table", "output_table", "columns", "options", "with_comments"]

/-- A configuration holds what a request holds under the names that they share, and the request
holds nothing else. -/
structure Extends (config fields : Entries Value) : Prop where
  names : ∀ e ∈ fields, ∃ name ∈ sharedNames, e.1 = .text (Text.ofString name)
  same : ∀ name ∈ sharedNames, config.field? name = fields.field? name

namespace Extends
variable {config fields : Entries Value} {request : Value}

/-- The names of the request are good, so its values define what it stands for. -/
theorem definition_eq (h : Extends config fields) (clock : Moment)
    (hopened : request.opened = .mapping fields) :
    Request.definition clock request =
      Request.defined clock fun name => (fields.field? name).getD .null := by
  have hkeys : ∀ name ∈ sharedNames, Request.isKey name = true := by decide
  refine Request.definition_eq_defined clock hopened (Options.checkNames_eq_ok.2 fun v hv => ?_)
  obtain ⟨e, he, rfl⟩ := List.mem_map.1 hv
  obtain ⟨name, hname, heq⟩ := h.names e he
  exact ⟨name, heq, hkeys name hname⟩

/-- The request does not say whether statements are terminated. -/
theorem field?_terminate (h : Extends config fields) :
    fields.field? "terminate_statements" = none := by
  have hother : ∀ name ∈ sharedNames, Value.same (.text (Text.ofString name))
      (.text (Text.ofString "terminate_statements")) = false := by decide
  refine Entries.field?_eq_none_of fun e he => ?_
  obtain ⟨name, hname, heq⟩ := h.names e he
  rw [heq]
  exact hother name hname

/-- The configuration defines what the request does, with the statements terminated. -/
theorem definition_bind (h : Extends config fields) (clock : Moment)
    (hopened : request.opened = .mapping fields) :
    Script.request config >>= Request.definition clock =
      Definition.terminated <$> Request.definition clock request := by
  have hinput := h.same "input_table" (by decide)
  have houtput := h.same "output_table" (by decide)
  have hcolumns := h.same "columns" (by decide)
  have hoptions := h.same "options" (by decide)
  have hcomments := h.same "with_comments" (by decide)
  rw [h.definition_eq clock hopened]
  unfold Script.request
  simp only [hinput, houtput, hcolumns, hoptions, hcomments]
  split
  · rename_i hgiven
    rw [ok_bind, Request.definition_eq_defined clock rfl
      (Request.checkNames_map (by simp [Request.isKey]))]
    refine Request.defined_terminated clock ?_ ?_ ?_ ?_ ?_ ?_ ?_
    all_goals try rw [Request.field?_map]
    · rfl
    · cases fields.field? "output_table" <;> rfl
    · cases fields.field? "columns" with
      | none => exact .inr ⟨rfl, rfl⟩
      | some v => exact .inl rfl
    · cases fields.field? "options" with
      | none => exact .inr ⟨rfl, rfl⟩
      | some v => exact .inl rfl
    · cases fields.field? "with_comments" <;> rfl
    · rfl
    · rw [h.field?_terminate]
      rfl
  · rename_i hgiven
    unfold Request.defined
    rw [Bool.not_eq_true] at hgiven
    rw [hgiven]
    rfl

/-- The answer to a configuration is that to the request, with the statements terminated. -/
theorem answered_eq (h : Extends config fields) (clock : Moment)
    (hopened : request.opened = .mapping fields) :
    (answered clock config).1 = Answer.terminated <$> (Request.answer clock request).1 := by
  have hleft : (answered clock config).1 =
      Script.request config >>= Request.definition clock >>= fun d =>
        (Answer.mk d.inputTable d.outputTable ·) <$> (d.generateReport none).result := by
    unfold answered
    cases Script.request config with
    | error f => rfl
    | ok r => exact Request.answer_fst clock r
  rw [hleft, h.definition_bind clock hopened, Request.answer_fst]
  cases hd : Request.definition clock request with
  | error f => rfl
  | ok d =>
    have hopen : d.terminate = false := by
      rw [h.definition_eq clock hopened] at hd
      rw [Request.terminate_of_defined hd, h.field?_terminate]
      rfl
    show (Answer.mk d.inputTable d.outputTable ·) <$> (d.terminated.generateReport none).result =
      Answer.terminated <$> (Answer.mk d.inputTable d.outputTable ·) <$>
        (d.generateReport none).result
    rw [Definition.generateReport_terminated hopen]
    rcases d.generateReport none with ⟨f | statements, events⟩ <;> rfl

end Extends

/-- A request whose names are among those that a configuration shares with it, and a configuration
that holds the same under these names and anything else besides: if the script can be written, the
configuration fails as the request fails, or both have answers, with the same tables and with the
statements of the script those of the request and a semicolon behind each. -/
theorem make_agrees (clock : Moment) {w : Workspace} {config fields : Entries Value}
    {request given : Value} (hopened : request.opened = .mapping fields)
    (hextends : Extends config fields)
    (hsave : ∀ a, (Request.answer clock request).1 = .ok a →
      ∃ p, (perform w (save (directoryOf config given) a.terminated)).1 = .ok p) :
    (∀ f, (Request.answer clock request).1 = .error f →
      (perform w (make clock config given)).1 = .error f) ∧
    (∀ a, (Request.answer clock request).1 = .ok a →
      ∃ p, (perform w (make clock config given)).1 = .ok ⟨a.terminated, p⟩) ∧
    ∀ load path, (perform w (Script.config load path)).1 = .ok config →
      perform w (execute load clock path given) = perform w (make clock config given) := by
  have hanswered := hextends.answered_eq clock hopened
  refine ⟨fun f hf => ?_, fun a ha => ?_, fun load path hpath => ?_⟩
  · rw [hf] at hanswered
    have hrespond := perform_respond w clock config
    rw [hanswered] at hrespond
    exact congrArg Prod.fst (perform_bind_of_error hrespond)
  · rw [ha] at hanswered
    obtain ⟨p, hp⟩ := hsave a ha
    obtain ⟨w', hsaved⟩ := save_of_events hp (w.events ++ (answered clock config).2)
    have hmake : perform w (make clock config given) = (.ok ⟨a.terminated, p⟩, w') :=
      make_eq_ok.2 ⟨hanswered, hsaved⟩
    exact ⟨p, congrArg Prod.fst hmake⟩
  · have hread : perform w (Script.config load path) = (.ok config, w) := by
      rw [perform_config_eq] at hpath ⊢
      exact Prod.ext hpath rfl
    exact perform_bind_of_ok hread

/-- The names of a configuration that no request has make no difference. -/
theorem make_agrees_unknown :
    let clock : Moment := ⟨⟨2024, 1, 1⟩, 0, 0, 0, 0, none⟩
    let shared : List (String × Value) := [("input_table", .text "t"), ("columns", .null)]
    let others : List (String × Value) := [("color", .int 5), ("output_dir", .text "out"),
      ("terminate_statements", .bool false)]
    let config : Entries Value := (shared ++ others).map fun f => (.text f.1, f.2)
    let w : Workspace := ⟨.ofFiles [] [], []⟩
    ∃ a p, (Request.answer clock (Request.entries shared)).1 = .ok a ∧
      (perform w (make clock config .null)).1 = .ok ⟨a.terminated, p⟩ := by
  intro clock shared others config w
  have hsaves : (Request.answer clock (Request.entries shared)).1.toOption.map (fun a =>
      (perform w (save (directoryOf config .null) a.terminated)).1.isOk) = some true := by
    decide +kernel
  obtain ⟨a, ha, hsaved⟩ := Option.map_eq_some_iff.1 hsaves
  have hanswer := ok_of_toOption ha
  have hextends : Extends config (shared.map fun f => (.text f.1, f.2)) := by
    refine ⟨fun e he => ?_, fun name hname => ?_⟩
    · obtain ⟨f, hf, rfl⟩ := List.mem_map.1 he
      refine ⟨f.1, ?_, rfl⟩
      rcases List.mem_cons.1 hf with rfl | hf
      · decide
      · obtain rfl := List.mem_singleton.1 hf
        decide
    · rw [Request.field?_map, Request.field?_map]
      simp only [sharedNames, List.mem_cons, List.not_mem_nil, or_false] at hname
      rcases hname with rfl | rfl | rfl | rfl | rfl <;> rfl
  have hopened : (Request.entries shared).opened =
      .mapping (shared.map fun f => (.text f.1, f.2)) := rfl
  obtain ⟨-, hmakes, -⟩ := make_agrees clock (w := w) hopened hextends fun b hb => by
    obtain rfl := Except.ok.inj (hanswer.symm.trans hb)
    exact exists_of_isOk hsaved
  obtain ⟨p, hp⟩ := hmakes a hanswer
  exact ⟨a, p, hanswer, hp⟩

end Script

end HiveTable
