import HiveTable.Proofs.Request.Declared
import HiveTable.Proofs.Script.Outcome
import HiveTable.Proofs.Writer.Failures

/-!
# Accepted requests find their columns

The columns of a request are checked before it is accepted, and its catalog is asked for its own
table. So the writer of an accepted request knows its columns, and nothing that is made of the
request, neither the answer nor the response nor a script, fails for them any more:
`fails_after_acceptance`. If the values of the request have the types that are declared for them,
it can only be refused, and for what is asked of its columns.
-/

namespace HiveTable

/-! ## What a definition takes from its request -/

namespace Request
variable {clock : Moment} {request : Value} {d : Definition}

theorem parts_of_definition (h : definition clock request = .ok d) :
    d.inputTable = field request "input_table" ∧
      d.outputTable = (if (field request "output_table").isGiven then field request "output_table"
        else field request "input_table") ∧
      Options.ofValue (field request "options") = .ok d.options ∧
      Overrides.ofValue d.options.overrides = .ok d.overrides := by
  unfold definition at h
  split at h
  case h_2 => cases h
  rename_i fields hopened
  have hfield : ∀ name, (Entries.field? fields name).getD .null = field request name := by
    intro name
    unfold field
    rw [hopened]
  simp only [hfield] at h
  obtain ⟨_, -, h⟩ := bind_eq_ok.1 h
  split at h
  · cases h
  split at h
  case h_3 => cases h
  all_goals
    obtain ⟨_, -, h⟩ := bind_eq_ok.1 h
    obtain ⟨catalog, -, h⟩ := bind_eq_ok.1 h
    obtain ⟨options, hoptions, h⟩ := bind_eq_ok.1 h
    obtain ⟨-, hread, hd⟩ := Definition.make_eq_ok.1 h
    rw [hd]
    exact ⟨rfl, rfl, hoptions, hread⟩

/-- Every entry that has a text for its name gets its column, under this name. -/
theorem columns_of_definition (h : definition clock request = .ok d)
    (hnames : ∀ spec ∈ specs request, ∃ name, Catalog.specName spec = .text name) :
    ∃ columns, d.columns none = .ok columns ∧
      columns.map (·.name) = (specs request).map Catalog.specName := by
  obtain ⟨own, columns, hown, hrun, hfound, -⟩ := describe_of_definition h hnames
  obtain ⟨w', hdescribe, -⟩ := Writer.describe_follows _ (Writer.coherent_new d)
  rw [hdescribe] at hrun
  refine ⟨columns, hrun, ?_⟩
  have hcolumns : columns.map (·.name) = own.map (·.name) := by
    rw [← List.forall₂_eq_eq_eq, List.forall₂_map_left_iff, List.forall₂_map_right_iff]
    exact hfound.imp fun _ _ hc => hc.1
  have hspecs : own.map (·.name) = (specs request).map Catalog.specName := by
    rw [← List.forall₂_eq_eq_eq, List.forall₂_map_left_iff, List.forall₂_map_right_iff]
    exact ((mapM_eq_ok.1 hown).imp fun _ _ hc => (Column.ofInfo_value hc).1).flip
  exact hcolumns.trans hspecs

/-! ## What fails afterwards -/

theorem generate_fails {columns : List Column} (h : d.columns none = .ok columns) :
    FailsOnly (Failure.OfWork columns)
      (Writer.perform { definition := d } Writer.generate).1 := by
  obtain ⟨w', hrun, -⟩ := Writer.generate_follows _ (Writer.coherent_new d)
  rw [hrun]
  exact Definition.generateReport_fails h

theorem answer_fails (h : definition clock request = .ok d) {columns : List Column}
    (hcolumns : d.columns none = .ok columns) :
    FailsOnly (Failure.OfWork columns) (answer clock request).1 := by
  have hgenerate := generate_fails hcolumns
  rw [answer_of_definition h]
  rcases hrun : Writer.perform { definition := d } Writer.generate with ⟨f | statements, w⟩
  · rw [hrun] at hgenerate
    exact .error (hgenerate f rfl)
  · exact .ok _

theorem respond_fails {P : Failure → Prop} (h : FailsOnly P (answer clock request).1) :
    FailsOnly P (respond clock request) := by
  unfold respond
  split
  · exact .ok _
  · exact .ok _
  · rename_i f _ hf
    exact .error (h f hf)

end Request

namespace Script

theorem Unsaved.not_ofSchema {into : Text} {a : Answer} {f : Failure} (h : Unsaved into a f) :
    ¬ f.OfSchema := by
  have hmisused : ∀ {path : Text}, Misused path f → ¬ f.OfSchema := by
    rintro path (_ | _ | _) ⟨⟩
  cases h with
  | directory h =>
    obtain ⟨path, -, hpath⟩ := h
    exact hmisused hpath
  | script h => exact hmisused h
  | content => exact nofun

theorem save_not_ofSchema (directory : Value) (a : Answer) :
    FailsOnly (¬ ·.OfSchema) (save directory a : Action (StateM Workspace) Text) := by
  cases directory with
  | text directory => exact (save_fails directory a).mono fun _ => Unsaved.not_ofSchema
  | _ => exact .throw nofun

/-- A script is made of the answer, and saving it has nothing to do with the columns. -/
theorem execute_not_ofSchema {load : Yaml.Loader} {clock : Moment} {request : Value}
    {fields : Entries Value} {w w' : Workspace} {path : String}
    (hconfig : perform w (config load path) = (.ok fields, w'))
    (hrequest : Script.request fields = .ok request)
    (h : HiveTable.FailsOnly (¬ ·.OfSchema) (Request.answer clock request).1) (directory : Value) :
    HiveTable.FailsOnly (¬ ·.OfSchema) (perform w (execute load clock path directory)).1 := by
  have hanswered : answered clock fields = Request.answer clock request := by
    unfold answered
    rw [hrequest]
  intro f hf
  unfold execute at hf
  rw [perform_bind_of_ok hconfig] at hf
  rcases make_eq_error hf with hanswer | ⟨a, w₁, -, hsave⟩
  · exact h f (hanswered ▸ hanswer)
  · exact save_not_ofSchema _ a w₁ f hsave

end Script

namespace Request
variable {clock : Moment} {request : Value} {d : Definition}

/-! ## Values of the declared types -/

/-- A request whose values have the types that are declared for them where the work on its columns
comes to use them. -/
structure Typed (request : Value) (d : Definition) : Prop where
  inputTable : ∃ t, field request "input_table" = .text t
  outputTable : (field request "output_table").IsGivenText
  options : d.options.Declared
  types : ∀ spec ∈ specs request, ∀ c, Catalog.columnOf spec = .ok c →
    c.type.asValue.hasLongNumber = false
  count : (specs request).length ≤ maxItems

theorem Typed.declared (htyped : Typed request d) (h : definition clock request = .ok d)
    (hnames : ∀ spec ∈ specs request, ∃ name, Catalog.specName spec = .text name) :
    d.Declared none := by
  obtain ⟨hinput, houtput, hoptions, -⟩ := parts_of_definition h
  obtain ⟨catalog, hsource, htable, hgiven, hkey, hspecs⟩ := catalog_of_definition h
  refine Definition.declared_of_catalog hsource htable hgiven hkey ?_ ?_ ?_ htyped.options ?_ ?_ ?_
  · intro c hc
    obtain ⟨spec, hspec, hcolumn⟩ := exists_of_mem_mapM hspecs hc
    obtain ⟨hcgiven, hname, -⟩ := Catalog.columnOf_ok hcolumn
    exact ⟨hcgiven, hname ▸ hnames spec hspec⟩
  · exact hinput ▸ htyped.inputTable
  · rw [houtput]
    split
    · rename_i hgiven
      exact htyped.outputTable hgiven
    · exact htyped.inputTable
  · exact (Options.ofValue_partitionKey hoptions).imp_right fun ⟨key, hkey, _⟩ => ⟨key, hkey⟩
  · intro c hc
    obtain ⟨spec, hspec, hcolumn⟩ := exists_of_mem_mapM hspecs hc
    exact htyped.types spec hspec c hcolumn
  · exact (mapM_eq_ok.1 hspecs).length_eq ▸ htyped.count

/-- The writer of an accepted request whose columns have texts for names finds a column for each
entry, in order and under the name of the entry. Neither the answer to the request nor the response
nor a script that is made of it fails for want of a source, a table, a column or what is known of
it. If the values of the request have their declared types besides, the statements are only refused
for an override or a partition, for the type of one of these columns, or for a delimiter. -/
theorem fails_after_acceptance (h : definition clock request = .ok d)
    (hnames : ∀ spec ∈ specs request, ∃ name, Catalog.specName spec = .text name) :
    ∃ columns, (Writer.perform { definition := d } Writer.describe).1 = .ok columns ∧
      columns.map (·.name) = (specs request).map Catalog.specName ∧
      FailsOnly (¬ ·.OfSchema) (answer clock request).1 ∧
      FailsOnly (¬ ·.OfSchema) (respond clock request) ∧
      (∀ load (w w' : Workspace) path fields directory,
        Script.perform w (Script.config load path) = (.ok fields, w') →
        Script.request fields = .ok request →
        FailsOnly (¬ ·.OfSchema) (Script.perform w (Script.execute load clock path directory)).1) ∧
      (Typed request d → FailsOnly (fun f => ∃ r, f = .refused r ∧ r.OfWork columns)
        (Writer.perform { definition := d } Writer.generate).1) := by
  obtain ⟨columns, hcolumns, hsame⟩ := columns_of_definition h hnames
  obtain ⟨w', hdescribe, -⟩ := Writer.describe_follows _ (Writer.coherent_new d)
  have hanswer : FailsOnly (¬ ·.OfSchema) (answer clock request).1 :=
    (answer_fails h hcolumns).mono fun _ => Failure.OfWork.not_ofSchema
  refine ⟨columns, by rw [hdescribe]; exact hcolumns, hsame, hanswer, respond_fails hanswer,
    fun load w w' path fields directory hconfig hrequest =>
      Script.execute_not_ofSchema hconfig hrequest hanswer directory, fun htyped => ?_⟩
  have hwork := generate_fails hcolumns
  obtain ⟨-, -, -, hoverrides⟩ := parts_of_definition h
  obtain ⟨w', hrun, -⟩ := Writer.generate_follows _ (Writer.coherent_new d)
  rw [hrun] at hwork ⊢
  intro f hf
  rcases Definition.generateReport_refusable (htyped.declared h hnames) htyped.options
    (Overrides.ofValue_nonempty hoverrides) with ⟨statements, hok, -⟩ | ⟨r, hr⟩
  · exact nomatch hok.symm.trans hf
  · obtain rfl := Except.error.inj (hr.symm.trans hf)
    cases hwork _ hf with
    | refused hr => exact ⟨r, rfl, hr⟩

/-- A column without a Hive type is found, and the statements are refused for it. -/
theorem fails_after_acceptance_blob :
    let clock : Moment := ⟨⟨2024, 1, 1⟩, 0, 0, 0, 0, none⟩
    let request := entries [("input_table", .text "t"), ("columns", .list
      [entries [("name", .text "id"), ("type", .text "INTEGER")],
       entries [("name", .text "body"), ("type", .text "BLOB")]])]
    ∃ (d : Definition) (columns : List Column) (r : Refusal), definition clock request = .ok d ∧
      (∀ spec ∈ specs request, ∃ name, Catalog.specName spec = .text name) ∧ Typed request d ∧
      (Writer.perform { definition := d } Writer.describe).1 = .ok columns ∧
      columns.map (·.name) = [.text "id", .text "body"] ∧
      (Writer.perform { definition := d } Writer.generate).1 = .error (.refused r) ∧
      r.OfWork columns := by
  intro clock request
  obtain ⟨d, hd, hoptions, hfailed⟩ : ∃ d, definition clock request = .ok d ∧ d.options = {} ∧
      (Writer.perform { definition := d } Writer.generate).1.isOk = false :=
    ⟨_, rfl, rfl, by decide +kernel⟩
  have hspecs : specs request =
      [entries [("name", .text "id"), ("type", .text "INTEGER")],
       entries [("name", .text "body"), ("type", .text "BLOB")]] := rfl
  have hnames : ∀ spec ∈ specs request, ∃ name, Catalog.specName spec = .text name := by
    rw [hspecs]
    simp only [List.forall_mem_cons]
    exact ⟨⟨"id", rfl⟩, ⟨"body", rfl⟩, by simp⟩
  have htyped : Typed request d :=
    { inputTable := ⟨"t", rfl⟩
      outputTable := nofun
      options := hoptions ▸ Options.declared_default
      types := by
        intro spec hspec c hc
        have hrequest : request.hasLongNumber = false := by decide +kernel
        have hshown := hasLongNumber_spec hrequest spec hspec
        exact (Column.ofInfo_value (Catalog.columnOf_ok hc).2.2).2 hshown
      count := by rw [hspecs]; decide }
  obtain ⟨columns, hrun, hsame, -, -, -, hrefused⟩ := fails_after_acceptance hd hnames
  obtain ⟨f, hf⟩ := exists_error_of_isOk hfailed
  obtain ⟨r, rfl, hr⟩ := hrefused htyped f hf
  exact ⟨d, columns, r, hd, hnames, htyped, hrun, hsame.trans (by rw [hspecs]; rfl), hf, hr⟩

/-- A table that is named by a mapping with a date for a key cannot be reported, and neither a type
nor a delimiter that is a number of too many digits can be refused. -/
theorem answer_fails_otherwise :
    let clock : Moment := ⟨⟨2024, 1, 1⟩, 0, 0, 0, 0, none⟩
    let huge : Value := .int (10 ^ 4300 : Nat)
    let dated := entries [("input_table", .text "t"),
      ("output_table", .mapping [(.date ⟨2011, 4, 13⟩, .int 1)])]
    let coded := entries [("input_table", .text "t"),
      ("columns", .list [entries [("name", .text "c"), ("type", huge)]])]
    let delimited := entries [("input_table", .text "t"),
      ("options", entries [("field_delimiter", huge)])]
    (∀ request ∈ [dated, coded, delimited], (definition clock request).isOk = true ∧
        ∀ spec ∈ specs request, ∃ name, Catalog.specName spec = .text name) ∧
      (answer clock dated).1 = .error .wrongKind ∧ (answer clock coded).1 = .error .unusable ∧
      (answer clock delimited).1 = .error .unusable := by
  intro clock huge dated coded delimited
  have hwrongKind : (match (answer clock dated).1 with
      | .error .wrongKind => true
      | _ => false) = true := by
    decide +kernel
  have hunusable : ∀ request ∈ [coded, delimited], (match (answer clock request).1 with
      | .error .unusable => true
      | _ => false) = true := by
    decide +kernel
  have hresult : ∀ request ∈ [coded, delimited], (answer clock request).1 = .error .unusable := by
    intro request hrequest
    have h := hunusable request hrequest
    split at h
    · assumption
    · cases h
  have haccepted : ∀ request ∈ [dated, coded, delimited],
      (definition clock request).isOk = true := by
    decide +kernel
  have hnames : ∀ request ∈ [dated, coded, delimited], ∀ spec ∈ specs request,
      ∃ name, Catalog.specName spec = .text name := by
    have hspecs : specs dated = [] ∧
        specs coded = [entries [("name", .text "c"), ("type", huge)]] ∧ specs delimited = [] := by
      refine ⟨?_, ?_, ?_⟩
      all_goals
        rw [specs, field_entries]
        rfl
    have hname : Catalog.specName (entries [("name", .text "c"), ("type", huge)]) = .text "c" := rfl
    simp [hspecs, hname]
  refine ⟨fun request h => ⟨haccepted request h, hnames request h⟩, ?_, hresult coded (by simp),
    hresult delimited (by simp)⟩
  split at hwrongKind
  · assumption
  · cases hwrongKind

end Request

end HiveTable
