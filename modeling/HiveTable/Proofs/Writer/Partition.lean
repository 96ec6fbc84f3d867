import HiveTable.Proofs.Request.Declared
import HiveTable.Proofs.Writer.Trace

/-!
# Partitions

A partition has both a key and a value or neither: options with half of one, or with a blank key,
are refused (`ofValue_refused`). A definition with a partition writes one clause into each of its
statements, and all else is as without it: the column of the partition stands before the row format
of the statement that creates the table (`createTable_unpartitioned`), and its value ends the
statement that loads the data (`loadData_unpartitioned`). A request that succeeds does so without
the partition (`generateReport_unpartitioned`), and so it is for writers over the options of a
mapping, after any run of calls on both (`partition_clauses`).
-/

namespace HiveTable

theorem Value.isGiven_of_not_blank {t : Text} (h : t.isBlankText = false) :
    (Value.text t).isGiven = true := by
  cases t with
  | nil => cases h
  | cons => rfl

/-! ## Half a partition -/

namespace Options

theorem check_refused {o : Options} (h : o.partitionKey.isNull ≠ o.partitionValue.isNull ∨
    o.partitionKey.isNull = false ∧ o.partitionKey.display.isBlankText = true) :
    ∃ r, o.check = .error (.refused r) := by
  unfold check
  dsimp only
  split
  · exact ⟨_, rfl⟩
  · rename_i hhalf
    obtain ⟨hkey, hblank⟩ := h.resolve_left (by simpa using hhalf)
    rw [hkey, hblank]
    exact ⟨_, rfl⟩

/-- Half a partition is refused, and so is a blank key. -/
theorem ofValue_refused {entries : Entries Value} (hkeys : ∀ e ∈ entries, ∃ t, e.1 = .text t)
    (hdistinct : entries.Pairwise fun a b => a.1.same b.1 = false)
    (hkey : (given entries "partition_key").hasLongNumber = false)
    (hvalue : (given entries "partition_value").hasLongNumber = false)
    (h : (given entries "partition_key").isNull ≠ (given entries "partition_value").isNull ∨
      (given entries "partition_key").isNull = false ∧
        (given entries "partition_key").display.isBlankText = true) :
    ∃ r, ofValue (.mapping entries) = .error (.refused r) ∧ r.label = "ConfigurationError" := by
  obtain ⟨r, hr⟩ : ∃ r, ofValue (.mapping entries) = .error (.refused r) := by
    rw [ofValue_mapping]
    have hnames : ∀ v ∈ entries.map (·.1), ∃ t, v = .text t := by
      intro v hv
      obtain ⟨e, he, rfl⟩ := List.mem_map.1 hv
      exact hkeys e he
    rcases checkNames_refusable .unknownOptions hnames with ⟨_, hchecked, hknown⟩ | ⟨r, hr⟩
    · obtain ⟨o, ho, -⟩ : ∃ o, assign entries = .ok o ∧ True :=
        foldlM_succeeds (f := assignEntry) (fun e he o _ => by
          obtain ⟨s, hs, hoption⟩ := hknown e.1 (List.mem_map_of_mem he)
          exact ⟨_, assignEntry_eq_ok.2 ⟨s, hs, hoption, rfl⟩, trivial⟩) trivial
      obtain ⟨hfield, hfield'⟩ := assign_partition hdistinct ho
      rw [← hfield] at hkey h
      rw [← hfield'] at hvalue h
      obtain ⟨key, htext, -⟩ := textual_ok hkey
      obtain ⟨value, htext', -⟩ := textual_ok hvalue
      obtain ⟨hnull, hdisplay⟩ := textual_eq_ok htext
      rw [hchecked, ok_bind, ho, ok_bind, htext, ok_bind, htext', ok_bind]
      refine check_refused (h.imp (fun hhalf => ?_) fun hblank => ?_)
      · dsimp only
        rwa [hnull, (textual_eq_ok htext').1]
      · obtain rfl := hdisplay hblank.1
        exact ⟨rfl, hblank.2⟩
    · exact ⟨r, by rw [hr]; rfl⟩
  exact ⟨r, hr, ofValue_fails _ _ hr⟩

end Options

/-! ## Statements -/

namespace Definition
variable {d : Definition}

/-- The same definition without a partition. -/
def unpartitioned (d : Definition) : Definition := { d with options := d.options.unpartitioned }

/-- Statements with the clauses of a partition, and the same statements without them. -/
structure Clauses (d : Definition) (key value : Text) (s s' : Statements) : Prop where
  create : ∃ (front rest : Text) (row : String), d.rowFormat = .ok row ∧
    s.createTable = front ++ ("PARTITIONED BY (" ++ key ++ " STRING) ") ++ (row ++ rest) ∧
    s'.createTable = front ++ (row ++ rest)
  load : ∃ body : Text,
    s.loadData = d.close (body ++ (" PARTITION (" ++ key ++ "='" ++ value ++ "')")) ∧
    s'.loadData = d.close body

theorem make_unpartitioned {options : Options} {source : Option SchemaSource}
    {inputTable outputTable : Value} {withComments terminate : Bool} {clock : Moment}
    (h : make options source inputTable outputTable withComments terminate clock = .ok d) :
    make options.unpartitioned source inputTable outputTable withComments terminate clock =
      .ok d.unpartitioned := by
  obtain ⟨hgiven, hoverrides, hd⟩ := make_eq_ok.1 h
  rw [hd]
  exact make_eq_ok.2 ⟨hgiven, hoverrides, rfl⟩

theorem close_append (d : Definition) (front rest : Text) :
    d.close (front ++ rest) = front ++ d.close rest := by
  unfold close
  split
  · exact List.append_assoc ..
  · rfl

theorem heading_unpartitioned (h : d.options.partitionKey.isGiven = true)
    (columns : List (Value × Text)) :
    d.heading columns = d.unpartitioned.heading columns ++
      ("PARTITIONED BY (" ++ d.options.partitionKey.display ++ " STRING) ") := by
  unfold heading
  rw [if_pos h]
  refine congrArg (· ++ _) (Eq.symm ?_)
  exact List.append_nil _

/-- The column of the partition stands before the row format. -/
theorem createTable_unpartitioned (h : d.options.partitionKey.isGiven = true)
    {columns : List (Value × Text)} {create : Text} (hcreate : d.createTable columns = .ok create) :
    ∃ (front rest : Text) (row : String), d.rowFormat = .ok row ∧
      create = front ++ ("PARTITIONED BY (" ++ d.options.partitionKey.display ++ " STRING) ") ++
        (row ++ rest) ∧
      d.unpartitioned.createTable columns = .ok (front ++ (row ++ rest)) := by
  obtain ⟨row, hrow, hcreate⟩ := bind_eq_ok.1 hcreate
  obtain ⟨storage, hstorage, hcreate⟩ := bind_eq_ok.1 hcreate
  obtain ⟨location, hlocation, hcreate⟩ := bind_eq_ok.1 hcreate
  obtain rfl := Except.ok.inj hcreate
  refine ⟨d.unpartitioned.heading columns, d.close (" " ++ storage ++ location), row, hrow, ?_, ?_⟩
  · simp only [heading_unpartitioned h, close_append, List.append_assoc]
  · have hunpartitioned : d.unpartitioned.createTable columns =
        .ok (d.close (d.unpartitioned.heading columns ++ row ++ " " ++ storage ++ location)) :=
      bind_eq_ok.2 ⟨row, hrow, bind_eq_ok.2 ⟨storage, hstorage, bind_eq_ok.2
        ⟨location, hlocation, rfl⟩⟩⟩
    rw [hunpartitioned]
    simp only [close_append, List.append_assoc]

/-- The value of the partition ends the statement. -/
theorem loadData_unpartitioned (h : d.options.partitionKey.isGiven = true) {load : Text}
    (hload : d.loadData = .ok load) :
    ∃ body : Text, load = d.close (body ++ (" PARTITION (" ++ d.options.partitionKey.display ++
        "='" ++ d.options.partitionValue.display ++ "')")) ∧
      d.unpartitioned.loadData = .ok (d.close body) := by
  obtain ⟨path, hpath, hload⟩ := bind_eq_ok.1 hload
  rw [if_pos h] at hload
  obtain rfl := Except.ok.inj hload
  refine ⟨_, rfl, bind_eq_ok.2 ⟨path, hpath, ?_⟩⟩
  refine congrArg (fun body => Except.ok (d.close body)) ?_
  exact List.append_nil _

end Definition

/-! ## Reports -/

namespace Knowledge
variable {k : Knowledge}

/-- The same knowledge of the definition without a partition. -/
def unpartitioned (k : Knowledge) : Knowledge := { k with definition := k.definition.unpartitioned }

@[simp] theorem unpartitioned_columns : k.unpartitioned.columns = k.columns := rfl

@[simp] theorem unpartitioned_checked : k.unpartitioned.checked = k.checked := rfl

/-- Without a partition its column cannot stand in the way. -/
theorem typedReport_unpartitioned {typed : List (Value × Text)} {events : List Event}
    (h : k.typedReport = ⟨.ok typed, events⟩) :
    k.unpartitioned.typedReport = ⟨.ok typed, events⟩ := by
  obtain ⟨columns, hcolumns, h⟩ := Report.lift_bind_eq_ok_iff.1 h
  obtain ⟨_, hchecked, h⟩ := Report.lift_bind_eq_ok_iff.1 h
  obtain ⟨_, -, h⟩ := Report.lift_bind_eq_ok_iff.1 h
  have htype : k.unpartitioned.typeReport = k.typeReport :=
    typeReport_congr rfl rfl fun _ => rfl
  unfold typedReport
  simp only [htype, unpartitioned_columns, unpartitioned_checked]
  exact Report.lift_bind_eq_ok_iff.2 ⟨columns, hcolumns, Report.lift_bind_eq_ok_iff.2
    ⟨(), hchecked, Report.lift_bind_eq_ok_iff.2 ⟨(), rfl, h⟩⟩⟩

/-- A request that succeeds does so without the partition, with the same statements but for its
two clauses. -/
theorem generateReport_unpartitioned (hgiven : k.definition.options.partitionKey.isGiven = true)
    {s : Statements} {events : List Event} (h : k.generateReport = ⟨.ok s, events⟩) :
    ∃ s', k.unpartitioned.generateReport = ⟨.ok s', events⟩ ∧
      k.definition.Clauses k.definition.options.partitionKey.display
        k.definition.options.partitionValue.display s s' := by
  obtain ⟨started, reported, generated, columns, hstarted, hstatements, hcolumns, hgenerated,
    rfl⟩ := generateReport_eq_ok.1 h
  obtain ⟨hcreate, hload⟩ := statementsReport_eq_ok.1 hstatements
  obtain ⟨typed, htyped, htable⟩ := createReport_eq_ok.1 hcreate
  obtain ⟨front, rest, row, hrow, hs, htable'⟩ :=
    Definition.createTable_unpartitioned hgiven htable
  obtain ⟨body, hs', hload'⟩ := Definition.loadData_unpartitioned hgiven hload
  have hstatements' : k.unpartitioned.statementsReport =
      ⟨.ok ⟨front ++ (row ++ rest), k.definition.close body⟩, reported⟩ :=
    statementsReport_eq_ok.2 ⟨createReport_eq_ok.2
      ⟨typed, typedReport_unpartitioned htyped, htable'⟩, hload'⟩
  exact ⟨_, generateReport_eq_ok.2 ⟨started, reported, generated, columns, hstarted, hstatements',
    hcolumns, hgenerated, rfl⟩, ⟨front, rest, row, hrow, hs, rfl⟩, ⟨body, hs', rfl⟩⟩

end Knowledge

/-! ## Writers -/

namespace Writer

/-- The writer over the same definition without a partition. -/
def unpartitioned (w : Writer) : Writer := { w with definition := w.definition.unpartitioned }

theorem knowledge_unpartitioned (w : Writer) (calls : List Call) :
    (w.unpartitioned.after calls).knowledge = (w.after calls).knowledge.unpartitioned := by
  obtain ⟨hdefinition, hdefinition', hknown, hchecked⟩ :=
    after_kept w w.unpartitioned (fun _ => rfl) rfl rfl rfl rfl calls
  unfold knowledge Knowledge.unpartitioned
  rw [hdefinition, hdefinition', hknown, hchecked]
  rfl

/-- A request that succeeds after a run of calls does so without the partition. -/
theorem generate_unpartitioned {w : Writer}
    (hgiven : w.definition.options.partitionKey.isGiven = true) {calls : List Call}
    {s : Statements} (h : ((w.after calls).outcome .generate).1 = .ok (.statements s)) :
    ∃ s', ((w.unpartitioned.after calls).outcome .generate).1 = .ok (.statements s') ∧
      w.definition.Clauses w.definition.options.partitionKey.display
        w.definition.options.partitionValue.display s s' := by
  have hdefinition : (w.after calls).knowledge.definition = w.definition :=
    after_definition w calls
  obtain ⟨s', hgenerate, hclauses⟩ := Knowledge.generateReport_unpartitioned
    (hdefinition ▸ hgiven) (Report.mk_eq.2 ⟨outcome_generate_eq_ok.1 h, rfl⟩)
  rw [hdefinition] at hclauses
  refine ⟨s', outcome_generate_eq_ok.2 ?_, hclauses⟩
  rw [knowledge_unpartitioned, hgenerate]

/-- A mapping with half a partition, or with a blank key, is refused, where its values have texts.
The options that a mapping with a partition is read to are those of the mapping without it but for
the texts of its two fields; and a writer over them whose request succeeds, after any run of calls,
has it succeed over the options without the partition. The statements are then the same but for two
clauses, which hold the texts of both fields. -/
theorem partition_clauses {entries : Entries Value} (hkeys : ∀ e ∈ entries, ∃ t, e.1 = .text t)
    (hdistinct : entries.Pairwise fun a b => a.1.same b.1 = false) :
    let key := Options.given entries "partition_key"
    let value := Options.given entries "partition_value"
    (key.hasLongNumber = false → value.hasLongNumber = false →
      (key.isNull ≠ value.isNull ∨ key.isNull = false ∧ key.display.isBlankText = true) →
      ∃ r, Options.ofValue (.mapping entries) = .error (.refused r) ∧
        r.label = "ConfigurationError") ∧
    (key.isNull = false → value.isNull = false →
      ∀ options, Options.ofValue (.mapping entries) = .ok options →
      Options.ofValue (.mapping (Options.withoutPartition entries)) = .ok options.unpartitioned ∧
      ∀ source inputTable outputTable withComments terminate clock (w : Writer),
        Definition.make options source inputTable outputTable withComments terminate clock =
          .ok w.definition →
        Definition.make options.unpartitioned source inputTable outputTable withComments terminate
          clock = .ok w.unpartitioned.definition ∧
        ∀ calls s, ((w.after calls).outcome .generate).1 = .ok (.statements s) →
          ∃ s', ((w.unpartitioned.after calls).outcome .generate).1 = .ok (.statements s') ∧
            w.definition.Clauses key.display value.display s s') := by
  intro key value
  refine ⟨Options.ofValue_refused hkeys hdistinct, fun hkey hvalue options hread =>
    ⟨Options.ofValue_withoutPartition hread, ?_⟩⟩
  intro source inputTable outputTable withComments terminate clock w hmake
  refine ⟨Definition.make_unpartitioned hmake, fun calls s hs => ?_⟩
  have hoptions : w.definition.options = options := by rw [(Definition.make_eq_ok.1 hmake).2.2]
  obtain ⟨htext, hblank, htext'⟩ := Options.ofValue_partition hdistinct hread hkey
  have hgiven : w.definition.options.partitionKey.isGiven = true := by
    rw [hoptions, htext]
    exact Value.isGiven_of_not_blank hblank
  have h := generate_unpartitioned hgiven hs
  rw [hoptions, htext, htext' hvalue] at h
  exact h

/-- The key zero and the value false count as not given in themselves, but their texts do not. -/
theorem partition_clauses_zero :
    let entries : Entries Value :=
      [(.text "partition_key", .int 0), (.text "partition_value", .bool false)]
    let source := SchemaSource.fixed [.text "id"] [(.text "id", .value (.text "INTEGER"))]
    let clock : Moment := ⟨⟨2024, 1, 1⟩, 0, 0, 0, 0, none⟩
    let w : Writer := { definition := ⟨{ partitionKey := .text "0", partitionValue := .text "False" },
      some source, .text "in", .text "out", false, true, clock, ∅⟩ }
    Options.ofValue (.mapping entries) = .ok w.definition.options ∧
    ∃ s s', (w.outcome .generate).1 = .ok (.statements s) ∧
      (w.unpartitioned.outcome .generate).1 = .ok (.statements s') ∧
      w.definition.Clauses "0" "False" s s' := by
  intro entries source clock w
  have hkeys : ∀ e ∈ entries, ∃ t, e.1 = .text t := by
    intro e he
    rcases List.mem_pair.1 he with rfl | rfl <;> exact ⟨_, rfl⟩
  have hdistinct : entries.Pairwise fun a b => a.1.same b.1 = false :=
    List.pairwise_pair.2 (by decide)
  have hzero : (Value.int 0).display = "0" := by decide +kernel
  have hkey : Options.textual (.int 0) = .ok (.text "0") := by
    rw [Options.textual_of_given rfl (by decide +kernel), hzero]
  have hread : Options.ofValue (.mapping entries) = .ok w.definition.options := by
    rw [Options.ofValue_mapping]
    exact bind_eq_ok.2 ⟨(), rfl, bind_eq_ok.2 ⟨_, rfl, bind_eq_ok.2 ⟨_, hkey, rfl⟩⟩⟩
  obtain ⟨s, hs⟩ := exists_of_isOk (x := w.knowledge.generateReport.result) (by decide +kernel)
  obtain ⟨-, hpartition⟩ := partition_clauses hkeys hdistinct
  obtain ⟨s', hs', hclauses⟩ := ((hpartition rfl rfl _ hread).2 (some source) (.text "in")
    (.text "out") false true clock w rfl).2 [] s (outcome_generate_eq_ok.2 hs)
  refine ⟨hread, s, s', outcome_generate_eq_ok.2 hs, hs', ?_⟩
  rw [← hzero]
  exact hclauses

end Writer

end HiveTable
