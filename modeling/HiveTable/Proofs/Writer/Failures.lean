import HiveTable.Proofs.Request

/-!
# What work on known columns fails for

Once the columns of a definition are known, a request for its statements ends in no failure that
only finding them out ends in: `generateReport_fails` lists what it can be refused for, and
`OfWork.not_ofSchema` tells this apart from what finding columns out is refused for. Other failures
come of values that are of no use where they stand.
-/

namespace HiveTable
variable {α β : Type}

/-! ## The two kinds of failures -/

/-- A refusal of what is asked for columns that are known. -/
inductive Refusal.OfWork (columns : List Column) : Refusal → Prop
  | override (name : Text) : OfWork columns (.unresolvedOverride name)
  | partition {c : Column} (h : c ∈ columns) : OfWork columns (.partitionIsColumn c.name)
  | type {c : Column} (h : c ∈ columns) : OfWork columns (.unsupportedType c.name c.type.asValue)
  | delimiter (fault : DelimiterFault) : OfWork columns (.delimiter fault)

namespace Failure

/-- A refusal of the work on known columns, or a value that is of no use where it stands. -/
inductive OfWork (columns : List Column) : Failure → Prop
  | refused {r : Refusal} (h : r.OfWork columns) : OfWork columns (.refused r)
  | nameNotText (kind : String) : OfWork columns (.nameNotText kind)
  | notText : OfWork columns .notText
  | wrongKind : OfWork columns .wrongKind
  | unusable : OfWork columns .unusable

/-- A failure of finding columns out: there is no source, or it does not know the table, or it
knows nothing of a column that it names, or nothing that a column can be made of. -/
inductive OfSchema : Failure → Prop
  | noSchema : OfSchema (.refused .noSchema)
  | unknownTable (table : Value) : OfSchema (.unknownTable table)
  | unknownColumn (name : Value) : OfSchema (.refused (.unsupportedType name (.text "unknown")))
  | column (fault : ColumnFault) : OfSchema (.refused (.column fault))

end Failure

/-- No type is called unknown. -/
theorem TypeCode.asValue_ne_unknown (type : TypeCode) : type.asValue ≠ .text "unknown" := by
  have hname : ∀ t : SqlType, Text.ofString t.name ≠ Text.ofString "unknown" := by
    intro t
    cases t <;> decide
  cases type with
  | standard t => exact fun h => hname t (Value.text.inj h)
  | vendor n => exact nofun

theorem Failure.OfWork.not_ofSchema {columns : List Column} {f : Failure}
    (h : f.OfWork columns) : ¬ f.OfSchema := by
  rintro (_ | _ | _ | _)
  · cases h with
    | refused h => cases h
  · cases h
  · cases h with
    | refused h =>
      generalize hunknown : Value.text "unknown" = type at h
      cases h with
      | type hc => exact TypeCode.asValue_ne_unknown _ hunknown.symm
  · cases h with
    | refused h => cases h

/-- A refusal that cannot be put in words is a failure of the work as well. -/
theorem Refusal.OfWork.failure {columns : List Column} {r : Refusal} (h : r.OfWork columns) :
    r.failure.OfWork columns := by
  unfold Refusal.failure
  split
  · exact .unusable
  · exact .refused h

/-! ## Reports that fail -/

namespace Report
variable {P : Failure → Prop}

/-- Of all failures only those with `P` end the work. -/
def FailsOnly (P : Failure → Prop) (r : Report α) : Prop := HiveTable.FailsOnly P r.result

namespace FailsOnly

protected theorem pure (a : α) : FailsOnly P (pure a) := HiveTable.FailsOnly.ok a

theorem lift {x : Except Failure α} (h : HiveTable.FailsOnly P x) : FailsOnly P (liftM x) := h

protected theorem throw {f : Failure} (h : P f) : FailsOnly P (throw f : Report α) :=
  HiveTable.FailsOnly.error h

protected theorem bind {r : Report α} {f : α → Report β} (hr : FailsOnly P r)
    (hf : ∀ a, FailsOnly P (f a)) : FailsOnly P (r >>= f) := by
  cases h : r.result with
  | ok a =>
    rw [bind_of_ok h]
    exact hf a
  | error e =>
    rw [bind_of_error h]
    exact .error (hr e h)

theorem rescue {r : Report α} {f : Failure → Report α} (hr : FailsOnly P r)
    (hf : ∀ e, P e → FailsOnly P (f e)) : FailsOnly P (r.rescue f) := by
  unfold Report.rescue
  split
  · exact .ok _
  · rename_i e he
    exact hf e (hr e he)

theorem mapM {f : α → Report β} {l : List α} (h : ∀ a ∈ l, FailsOnly P (f a)) :
    FailsOnly P (l.mapM f) := by
  induction l with
  | nil => exact .pure []
  | cons a rest ih =>
    obtain ⟨hfirst, hrest⟩ := List.forall_mem_cons.1 h
    rw [List.mapM_cons]
    exact .bind hfirst fun b => .bind (ih hrest) fun bs => .pure (b :: bs)

end FailsOnly

end Report

/-! ## Stage by stage -/

namespace Definition
variable {d : Definition} {types : Option (NameMap ColumnInfo)} {columns : List Column}

theorem emit_fails (e : Event) : (Report.emit e).FailsOnly (Failure.OfWork columns) := by
  have htext : FailsOnly (Failure.OfWork columns) (e.text (fun _ => "") .zero) := by
    unfold Event.text Event.logged
    refine .mapError (.any _) fun fault _ => ?_
    cases fault with
    | key => exact .wrongKind
    | endless => exact .unusable
  unfold Report.emit
  split
  · exact .ok ()
  · rename_i f hf
    exact .error (htext f hf)

theorem textOf_fails {f : Failure} (hf : f.OfWork columns) (v : Value) :
    FailsOnly (Failure.OfWork columns) (textOf f v) := by
  unfold textOf
  split
  · exact .ok _
  · exact .error hf

theorem nameOf_fails (v : Value) : FailsOnly (Failure.OfWork columns) (NameMap.nameOf v) := by
  unfold NameMap.nameOf
  split
  · exact .ok _
  · exact .error (.nameNotText _)

theorem ofEntries_fails (entries : Entries α) :
    FailsOnly (Failure.OfWork columns) (NameMap.ofEntries entries) := by
  have hupdate : ∀ m : NameMap α, FailsOnly (Failure.OfWork columns) (m.update entries).2 := by
    induction entries with
    | nil => exact fun m => .ok ()
    | cons e rest ih =>
      intro m
      unfold NameMap.update
      split
      · exact ih _
      · rename_i f hf
        exact .error (nameOf_fails _ f hf)
  have hentries := hupdate ∅
  unfold NameMap.ofEntries
  rcases hrun : NameMap.update ∅ entries with ⟨m, result⟩
  rw [hrun] at hentries
  cases result with
  | ok u => exact .ok m
  | error f => exact .error (hentries f rfl)

theorem checkOverrides_fails (overrides : NameMap α) (names : List Value) :
    FailsOnly (Failure.OfWork columns) (checkOverrides overrides names) := by
  unfold checkOverrides
  split
  · exact .error .wrongKind
  · refine .bind (ofEntries_fails _) fun known => ?_
    split
    · exact .error (.refused (.override _))
    · exact .ok ()

theorem checkPartition_fails :
    FailsOnly (Failure.OfWork columns) (d.checkPartition columns) := by
  unfold checkPartition
  dsimp only
  split
  · exact .ok ()
  · refine .forM fun c hc => ?_
    refine .bind (textOf_fails .notText _) fun name => .bind (textOf_fails .notText _) fun key => ?_
    split
    · exact .error (.refused (.partition hc))
    · exact .ok ()

theorem resolve_fails {c : Column} (hc : c ∈ columns) :
    FailsOnly (Failure.OfWork columns) (d.resolve c) := by
  have hresolution : FailsOnly (Failure.OfWork columns)
      (Resolution.ofColumn (!·.isEmpty) d.overrides c) := by
    unfold Resolution.ofColumn
    refine .bind (nameOf_fails _) fun name => ?_
    split
    · exact .ok _
    · split
      · exact .ok _
      · exact .error (Refusal.OfWork.type hc).failure
  unfold resolve
  exact .bind hresolution fun resolution => .ok _

theorem createTable_fails (typed : List (Value × Text)) :
    FailsOnly (Failure.OfWork columns) (d.createTable typed) := by
  have hescape : ∀ v, FailsOnly (Failure.OfWork columns)
      ((Delimiter.escape v).mapError fun f => (Refusal.delimiter f).failure) :=
    fun v => .mapError (.any _) fun fault _ => (Refusal.OfWork.delimiter fault).failure
  have hindexed : FailsOnly (Failure.OfWork columns) (Codec.isIndexed d.options.codec) := by
    unfold Codec.isIndexed
    split
    · exact .ok _
    · split
      · exact .ok _
      · exact .error .notText
  have hlocation : FailsOnly (Failure.OfWork columns) d.location := by
    unfold location
    split
    · exact .ok _
    · split
      · exact .error .unusable
      · exact .ok _
  refine .bind (.bind (hescape _) fun field => .bind (hescape _) fun line => .ok _) fun row => ?_
  refine .bind (.bind hindexed fun indexed => ?_) fun storage => .bind hlocation fun location =>
    .ok _
  cases indexed <;> exact .ok _

theorem loadData_fails : FailsOnly (Failure.OfWork columns) d.loadData := by
  have hpath : FailsOnly (Failure.OfWork columns) d.sourcePath :=
    .bind (textOf_fails .wrongKind _) fun root => .bind (textOf_fails .wrongKind _) fun name =>
      .ok _
  exact .bind hpath fun path => .ok _

/-! ## The work -/

theorem validate_fails (h : d.columns types = .ok columns) :
    FailsOnly (Failure.OfWork columns) (d.validate types) := by
  rw [Writer.validate_of_columns h]
  exact checkOverrides_fails _ _

theorem resolveReport_fails (h : d.columns types = .ok columns) {c : Column} (hc : c ∈ columns) :
    (d.resolveReport types c).FailsOnly (Failure.OfWork columns) := by
  refine .bind (.lift (validate_fails h)) fun _ => .bind (.lift (resolve_fails hc)) fun type => ?_
  split
  · exact .bind (emit_fails _) fun _ => .pure type
  · exact .pure type

theorem createReport_fails (h : d.columns types = .ok columns) :
    (d.createReport types).FailsOnly (Failure.OfWork columns) := by
  unfold createReport
  rw [h]
  show Report.FailsOnly _ (pure columns >>= _)
  rw [pure_bind]
  refine .bind (.lift (validate_fails h)) fun _ => .bind (.lift checkPartition_fails) fun _ => ?_
  refine .bind (.mapM fun c hc => ?_) fun typed => .lift (createTable_fails typed)
  exact .bind (resolveReport_fails h hc) fun type => .pure _

/-- With its columns known, a request for the statements fails only in work on them. -/
theorem generateReport_fails (h : d.columns types = .ok columns) :
    (d.generateReport types).FailsOnly (Failure.OfWork columns) := by
  have hfailure : ∀ f, Failure.OfWork columns f →
      (d.failureReport f : Report Statements).FailsOnly (Failure.OfWork columns) := by
    intro f hf
    unfold failureReport
    split
    · exact .bind (emit_fails _) fun _ => .throw hf
    · exact .throw hf
  refine .bind (emit_fails _) fun _ => .bind (.rescue ?_ hfailure) fun statements => ?_
  · exact .bind (createReport_fails h) fun create => .bind (.lift loadData_fails) fun load =>
      .pure _
  · rw [h]
    exact .bind (.pure columns) fun _ => .bind (emit_fails _) fun _ => .pure statements

end Definition

end HiveTable
