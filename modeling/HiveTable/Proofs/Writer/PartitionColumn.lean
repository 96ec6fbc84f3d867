import HiveTable.Proofs.Request.Options
import HiveTable.Proofs.Writer.ReadBack

/-!
# The column of a partition

The key of a partition becomes a column of the table, and no other column may have its name. The
names of the columns are compared with the key in any letter case, but with the blanks that stand
around it: where a statement is made, no column has the name of the key as it is written
(`partition_not_column`), and a column whose name differs from the key in blanks alone is let
through (`partition_column_blank`).
-/

namespace HiveTable

theorem Options.set_partitionKey {o : Options} {s : String} (h : s ≠ "partition_key") (v : Value) :
    (o.set s v).partitionKey = o.partitionKey := by
  unfold set
  split <;> first | rfl | exact absurd rfl h

/-- Columns pass the check if their names are texts and, in any letter case, not the key. -/
theorem Definition.checkPartition_eq_ok {d : Definition} {key : Text}
    (hkey : d.options.partitionKey = .text key) (hgiven : key ≠ []) {columns : List Column} :
    d.checkPartition columns = .ok () ↔
      ∀ c ∈ columns, ∃ name, c.name = .text name ∧ Text.fold name ≠ Text.fold key := by
  have hnot : (!(Value.text key).isGiven) = false := by rw [Value.isGiven_text.2 hgiven]; rfl
  unfold checkPartition
  dsimp only
  rw [hkey, hnot]
  simp only [Bool.false_eq_true, if_false]
  refine forM_eq_ok.trans (forall₂_congr fun c _ => ?_)
  cases c.name with
  | text name =>
    show (if Text.fold name = Text.fold key then Except.error _ else Except.ok ()) = _ ↔ _
    by_cases hsame : Text.fold name = Text.fold key
    · rw [if_pos hsame]
      refine iff_of_false (by rintro ⟨⟩) ?_
      rintro ⟨_, heq, hdiffers⟩
      exact hdiffers (Value.text.inj heq ▸ hsame)
    · rw [if_neg hsame]
      exact iff_of_true rfl ⟨name, rfl, hsame⟩
  | _ =>
    refine iff_of_false (by rintro ⟨⟩) ?_
    rintro ⟨_, ⟨⟩, -⟩

namespace Writer

/-- A statement is made of columns that pass the check. -/
theorem checkPartition_of_createTable {w : Writer} {create : Text}
    (h : (w.outcome .createTable).1 = .ok (.text create)) :
    ∃ columns, w.known = .ok columns ∧ w.definition.checkPartition columns = .ok () := by
  have hreport : w.knowledge.createReport.result = .ok create := by
    have hcreate : w.knowledge.report .createTable = Reply.text <$> w.knowledge.createReport :=
      (map_eq_pure_bind _ _).symm
    rw [outcome_eq_knowledge, hcreate, Report.result_map] at h
    cases hresult : w.knowledge.createReport.result with
    | error f =>
      rw [hresult] at h
      cases h
    | ok found =>
      rw [hresult] at h
      rw [Reply.text.inj (Except.ok.inj h)]
  obtain ⟨typed, htyped, -⟩ := Knowledge.createReport_eq_ok.1 (Report.mk_eq.2 ⟨hreport, rfl⟩)
  obtain ⟨columns, hknown, htyped⟩ := Report.lift_bind_eq_ok_iff.1 htyped
  obtain ⟨_, -, htyped⟩ := Report.lift_bind_eq_ok_iff.1 htyped
  obtain ⟨_, hpartition, -⟩ := Report.lift_bind_eq_ok_iff.1 htyped
  exact ⟨columns, hknown, hpartition⟩

/-- Options with a partition have a text for its key that is not blank. Of every statement that a
writer over them makes, alone or for a request, as long as no step assigns the key, all columns have
texts for names, and none of these is the key in any letter case. So a name that is the key up to
letter case and the blanks around them has blanks around it, or the key has. -/
theorem partition_not_column {v : Value} {options : Options}
    (hread : Options.ofValue v = .ok options) (hpartition : options.partitionKey.isNull = false) :
    ∃ key : Text, options.partitionKey = .text key ∧ key.isBlankText = false ∧
      ∀ source inputTable outputTable withComments terminate clock d,
        Definition.make options source inputTable outputTable withComments terminate clock = .ok d →
        ∀ steps : List Step, (∀ step ∈ steps, step.assigns "partition_key" = false) →
        let w := walk { definition := d } steps
        ∀ create, ((w.outcome .createTable).1 = .ok (.text create) ∨
            ∃ load, (w.outcome .generate).1 = .ok (.statements ⟨create, load⟩)) →
          ∃ columns, (w.outcome .describe).1 = .ok (.columns columns) ∧
            ∀ c ∈ columns, ∃ name : Text, c.name = .text name ∧ Text.fold name ≠ Text.fold key ∧
              (Text.fold name.trim = Text.fold key.trim → name.trim ≠ name ∨ key.trim ≠ key) := by
  obtain ⟨key, hkey, hblank⟩ : ∃ key, options.partitionKey = .text key ∧ key.isBlankText = false :=
    (Options.ofValue_partitionKey hread).resolve_left fun hnull => by
      rw [hnull] at hpartition
      cases hpartition
  refine ⟨key, hkey, hblank, ?_⟩
  intro source inputTable outputTable withComments terminate clock d hmake steps hsteps w create
    hcreate
  have hkept : w.definition.options.partitionKey = .text key := by
    have hwalk : w.definition.options.partitionKey = d.options.partitionKey :=
      walk_option Options.partitionKey (fun _ _ v h => Options.set_partitionKey h v) hsteps _
    rw [hwalk, (Definition.make_eq_ok.1 hmake).2.2, hkey]
  have halone : (w.outcome .createTable).1 = .ok (.text create) :=
    hcreate.elim id fun ⟨_, hgenerate⟩ => (outcome_of_generate hgenerate).1
  obtain ⟨columns, hknown, hchecked⟩ := checkPartition_of_createTable halone
  have hgiven : key ≠ [] := by
    rintro rfl
    cases hblank
  refine ⟨columns, by rw [outcome_describe, hknown]; rfl, fun c hc => ?_⟩
  obtain ⟨name, hname, hdiffers⟩ :=
    (Definition.checkPartition_eq_ok hkept hgiven).1 hchecked c hc
  refine ⟨name, hname, hdiffers, fun hsame => ?_⟩
  by_contra hplain
  rw [not_or, not_not, not_not] at hplain
  rw [hplain.1, hplain.2] at hsame
  exact hdiffers hsame

/-- A column beside the day by which the table is partitioned. -/
theorem partition_not_column_day :
    let entries : Entries Value := [(.text "partition_key", .text "day"),
      (.text "partition_value", .text "1")]
    let source := SchemaSource.fixed [.text "id"] [(.text "id", .value (.text "INTEGER"))]
    let clock : Moment := ⟨⟨2024, 1, 1⟩, 0, 0, 0, 0, none⟩
    ∃ (options : Options) (d : Definition) (create : Text) (columns : List Column),
      Options.ofValue (.mapping entries) = .ok options ∧ options.partitionKey.isNull = false ∧
      Definition.make options (some source) (.text "t") (.text "t") false false clock = .ok d ∧
      (outcome { definition := d } .createTable).1 = .ok (.text create) ∧
      (outcome { definition := d } .describe).1 = .ok (.columns columns) ∧
      ∀ c ∈ columns, ∃ name, c.name = .text name ∧ Text.fold name ≠ Text.fold "day" := by
  intro entries source clock
  obtain ⟨options, d, hread, hkey, hmake, hstatement⟩ : ∃ (options : Options) (d : Definition),
      Options.ofValue (.mapping entries) = .ok options ∧ options.partitionKey = .text "day" ∧
        Definition.make options (some source) (.text "t") (.text "t") false false clock = .ok d ∧
        (statement? { definition := d }).isSome = true :=
    ⟨_, _, rfl, rfl, rfl, by decide +kernel⟩
  obtain ⟨create, hcreate⟩ := Option.isSome_iff_exists.1 hstatement
  replace hcreate := outcome_of_statement? hcreate
  have hpartition : options.partitionKey.isNull = false := by rw [hkey]; rfl
  obtain ⟨key, hkey', -, hcolumns⟩ := partition_not_column hread hpartition
  obtain rfl := Value.text.inj (hkey.symm.trans hkey')
  obtain ⟨columns, hdescribe, hdiffers⟩ :=
    hcolumns _ _ _ _ _ _ d hmake [] (by simp) create (.inl hcreate)
  refine ⟨options, d, create, columns, hread, hpartition, hmake, hcreate, hdescribe, ?_⟩
  intro c hc
  obtain ⟨name, hname, hfold, -⟩ := hdiffers c hc
  exact ⟨name, hname, hfold⟩

/-- A blank before the key lets the column of that name through, and the statement has it twice. -/
theorem partition_column_blank :
    let entries : Entries Value := [(.text "partition_key", .text " ds"),
      (.text "partition_value", .text "1")]
    let source := SchemaSource.fixed [.text "ds"] [(.text "ds", .value (.text "INTEGER"))]
    let clock : Moment := ⟨⟨2024, 1, 1⟩, 0, 0, 0, 0, none⟩
    ∃ (options : Options) (d : Definition) (c : Column),
      Options.ofValue (.mapping entries) = .ok options ∧
      Definition.make options (some source) (.text "t") (.text "t") false false clock = .ok d ∧
      (outcome { definition := d } .describe).1 = .ok (.columns [c]) ∧ c.name = .text "ds" ∧
      options.partitionKey = .text " ds" ∧
      Text.fold (Text.trim "ds") = Text.fold (Text.trim " ds") ∧
      ∃ rest : Text, (outcome { definition := d } .createTable).1 = .ok (.text (Text.ofString
        "CREATE TABLE IF NOT EXISTS `t` ( `ds` INT) PARTITIONED BY ( ds STRING) " ++ rest)) := by
  intro entries source clock
  obtain ⟨options, d, c, hread, hmake, hdescribe, hname, hkey, hstatement⟩ : ∃ (options : Options)
      (d : Definition) (c : Column), Options.ofValue (.mapping entries) = .ok options ∧
        Definition.make options (some source) (.text "t") (.text "t") false false clock = .ok d ∧
        (outcome { definition := d } .describe).1 = .ok (.columns [c]) ∧ c.name = .text "ds" ∧
        options.partitionKey = .text " ds" ∧
        (statement? { definition := d }).any (Text.ofString
          "CREATE TABLE IF NOT EXISTS `t` ( `ds` INT) PARTITIONED BY ( ds STRING) " |>.isPrefixOf ·)
          = true :=
    ⟨_, _, _, rfl, rfl, rfl, rfl, rfl, by decide +kernel⟩
  obtain ⟨create, hcreate, hprefix⟩ := (Option.any_eq_true _ _).1 hstatement
  obtain ⟨rest, rfl⟩ := List.isPrefixOf_iff_prefix.1 hprefix
  exact ⟨options, d, c, hread, hmake, hdescribe, hname, hkey, by decide +kernel, rest,
    outcome_of_statement? hcreate⟩

end Writer

end HiveTable
