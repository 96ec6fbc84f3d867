import Mathlib.Data.List.Forall2
import Mathlib.Data.Set.List
import HiveTable.Proofs.Event
import HiveTable.Proofs.Overrides.Grammar
import HiveTable.Proofs.Resolution
import HiveTable.Proofs.Value.LongNumber
import HiveTable.Proofs.Writer.Transparency

/-!
# Which failure a request ends in

`Definition.faults` lists the conditions of a request in order, each with the failure that it
ends in if the condition is not met. A request ends in the first failure of this list, and with
both statements if there is none: `generate_faults`, for every state that a run of calls leaves
the writer in. Each stage of the work has a lemma of the form `Report.Ends`, and stages that
follow each other end in the first fault of both lists.
-/

namespace HiveTable

namespace Report
variable {α β ι : Type} {P : α → Prop} {Q : β → Prop} {faults faults' : List (Option Failure)}

/-- Work ends in the first fault, or, if there is none, with a value of which `P` holds. -/
def Ends (r : Report α) (faults : List (Option Failure)) (P : α → Prop) : Prop :=
  match faults.findSome? id with
  | some f => r.result = .error f
  | none => ∃ a, r.result = .ok a ∧ P a

namespace Ends

theorem of_ok {r : Report α} {a : α} (hfaults : ∀ x ∈ faults, x = none) (h : r.result = .ok a)
    (hp : P a) : Ends r faults P := by
  have hnone : faults.findSome? id = none := List.findSome?_eq_none_iff.2 hfaults
  unfold Ends
  rw [hnone]
  exact ⟨a, h, hp⟩

protected theorem pure {a : α} (hp : P a) : Ends (pure a) [] P := ⟨a, rfl, hp⟩

protected theorem bind {r : Report α} {s : α → Report β} (hr : Ends r faults P)
    (hs : ∀ a, P a → Ends (s a) faults' Q) : Ends (r >>= s) (faults ++ faults') Q := by
  unfold Ends at hr ⊢
  rw [List.findSome?_append]
  cases hfirst : faults.findSome? id with
  | some f =>
    rw [hfirst] at hr
    simp only [Option.some_or]
    rw [bind_of_error hr]
  | none =>
    rw [hfirst] at hr
    obtain ⟨a, ha, hp⟩ := hr
    simp only [Option.none_or]
    rw [bind_of_ok ha]
    exact hs a hp

theorem ok_then {r : Report α} {s : α → Report β} (hr : Ends r [] P)
    (hs : ∀ a, P a → Ends (s a) faults Q) : Ends (r >>= s) faults Q :=
  .bind hr hs

theorem then_ok {r : Report α} {s : α → Report β} (hr : Ends r faults P)
    (hs : ∀ a, P a → Ends (s a) [] Q) : Ends (r >>= s) faults Q := by
  rw [← List.append_nil faults]
  exact .bind hr hs

/-- A value that work ends with is its result. -/
theorem result {r : Report α} (hr : Ends r faults P) :
    Ends r faults fun a => r.result = .ok a ∧ P a := by
  unfold Ends at hr ⊢
  cases hfirst : faults.findSome? id with
  | some f => simpa only [hfirst] using hr
  | none =>
    rw [hfirst] at hr
    obtain ⟨a, ha, hp⟩ := hr
    exact ⟨a, ha, ha, hp⟩

theorem mono {r : Report α} {P' : α → Prop} (hr : Ends r faults P) (h : ∀ a, P a → P' a) :
    Ends r faults P' := by
  unfold Ends at hr ⊢
  cases hfirst : faults.findSome? id with
  | some f => simpa only [hfirst] using hr
  | none =>
    rw [hfirst] at hr
    obtain ⟨a, ha, hp⟩ := hr
    exact ⟨a, ha, h a hp⟩

/-- A loop ends in the fault of the first item that has one. -/
theorem mapM {γ : Type} {R : ι → γ → Prop} {S : ι → β → Prop} {f : γ → Report β}
    {fault : ι → Option Failure} {is : List ι} {l : List γ} (hl : List.Forall₂ R is l)
    (h : ∀ i c, R i c → Ends (f c) [fault i] (S i)) :
    Ends (l.mapM f) (is.map fault) (List.Forall₂ S is) := by
  induction hl with
  | nil => exact .pure .nil
  | @cons i c is l hi hl ih =>
    rw [List.mapM_cons, List.map_cons, ← List.singleton_append]
    refine .bind (h i c hi) fun b hb => ?_
    exact .then_ok ih fun bs hbs => .pure (.cons hb hbs)

theorem forM {γ : Type} {R : ι → γ → Prop} {f : γ → Except Failure PUnit}
    {fault : ι → Option Failure} {is : List ι} {l : List γ} (hl : List.Forall₂ R is l)
    (h : ∀ i c, R i c → Ends (liftM (f c)) [fault i] fun _ => True) :
    Ends (liftM (l.forM f)) (is.map fault) fun _ => True := by
  induction hl with
  | nil => exact .pure trivial
  | @cons i c is l hi hl ih =>
    have hlift : (liftM ((c :: l).forM f) : Report PUnit) =
        liftM (f c) >>= fun _ => liftM (l.forM f) := by
      show (liftM (f c >>= fun _ => l.forM f) : Report PUnit) = _
      cases f c <;> rfl
    rw [hlift, List.map_cons, ← List.singleton_append]
    exact .bind (h i c hi) fun _ _ => ih

/-- Work ends well exactly without faults, and in a failure exactly if it is the first fault. -/
theorem exact_of {r : Report α} (hr : Ends r faults P) :
    ((∃ a, r.result = .ok a ∧ P a) ↔ ∀ x ∈ faults, x = none) ∧
      ∀ f, r.result = .error f ↔ faults.findSome? id = some f := by
  have hnone : faults.findSome? id = none ↔ ∀ x ∈ faults, x = none := List.findSome?_eq_none_iff
  unfold Ends at hr
  cases hfirst : faults.findSome? id with
  | some first =>
    rw [hfirst] at hr hnone
    rw [hr, ← hnone]
    simp
  | none =>
    rw [hfirst] at hr hnone
    obtain ⟨a, ha, hp⟩ := hr
    rw [ha, ← hnone]
    simp [hp]

/-- A condition that is not met ends the work. -/
theorem unmet {r : Report α} {fault : Option Failure} {f : Failure} (hfault : fault = some f)
    (h : r.result = .error f) : Ends r [fault] P := by
  rw [hfault]
  exact h

theorem met {r : Report α} {fault : Option Failure} {a : α} (hfault : fault = none)
    (h : r.result = .ok a) (hp : P a) : Ends r [fault] P :=
  of_ok (by simpa using hfault) h hp

end Ends

end Report

/-! ## The conditions of a request -/

/-- The most items that a list of a program holds. -/
def maxItems : Nat := 0x7FFFFFFFFFFFFFFF

theorem isLong_of_le_maxItems {n : Nat} (h : n ≤ maxItems) : Number.isLong n = false := by
  have hlt : n < Nat.pow 10 19 := Nat.lt_of_le_of_lt h (by decide)
  exact Number.isLong_of_lt hlt (by decide)

/-- A value that is a text or null. -/
def Value.IsOptionalText (v : Value) : Prop := v = .null ∨ ∃ t, v = .text t

theorem Value.IsOptionalText.text_of_given {v : Value} (h : v.IsOptionalText)
    (hgiven : v.isGiven = true) : ∃ t, v = .text t := by
  refine h.resolve_left ?_
  rintro rfl
  cases hgiven

theorem Value.IsOptionalText.writable {v : Value} (h : v.IsOptionalText) : v.Writable := by
  rcases h with rfl | ⟨t, rfl⟩
  · exact ⟨"null", rfl⟩
  · exact writable_text t

namespace Definition
variable (d : Definition) (types : Option (NameMap ColumnInfo))

/-- The names of the columns. -/
def columnNames : List Text :=
  match d.schema types with
  | .ok (names, _) => names.filterMap fun
    | .text t => some t
    | _ => none
  | .error _ => []

/-- What is known of the columns. -/
def columnInfo : NameMap ColumnInfo :=
  match d.schema types with
  | .ok (_, info) => info
  | .error _ => ∅

/-- The types must be set, or there must be a source and a table to ask it for. -/
def schemaFault : Option Failure :=
  if types.isNone && (d.source.isNone || !d.inputTable.isGiven) then some (.refused .noSchema)
  else none

/-- Every name must have an info, and a column must come of it. -/
def infoFault (name : Text) : Option Failure :=
  match (d.columnInfo types).get? name with
  | none => some (.refused (.unsupportedType (.text name) (.text "unknown")))
  | some info =>
    match Column.ofInfo (.text name) info with
    | .error fault => some (.refused (.column fault))
    | .ok _ => none

/-- Every override must be for one of the columns. -/
def overrideFault (column : Text) : Option Failure :=
  if (d.columnNames types).any fun name => Text.fold name == Text.fold column then none
  else some (.refused (.unresolvedOverride column))

/-- No column may be the partition. -/
def partitionFault (name : Text) : Option Failure :=
  match d.options.partitionKey with
  | .text key =>
    if key ≠ [] ∧ Text.fold name = Text.fold key then
      some (.refused (.partitionIsColumn (.text name)))
    else none
  | _ => none

/-- Every column must have an override or a source type that Hive has a type for. -/
def typeFault (name : Text) : Option Failure :=
  match ((d.columnInfo types).get? name).map (Column.ofInfo (.text name)) with
  | some (.ok c) =>
    if (d.overrides.get? name).isSome || c.hiveType?.isSome then none
    else some (.refused (.unsupportedType (.text name) c.type.asValue))
  | _ => none

/-- Both delimiters must have an escape. A refusal whose number is too long to be shown is
another failure. -/
def delimiterFault (v : Value) : Option Failure :=
  match Delimiter.escape v with
  | .ok _ => none
  | .error fault => some (Refusal.delimiter fault).failure

/-- The conditions of a request in the order in which they are looked at. -/
def faults : List (Option Failure) :=
  d.schemaFault types :: (d.columnNames types).map (d.infoFault types) ++
    d.overrides.names.map (d.overrideFault types) ++
    (d.columnNames types).map d.partitionFault ++
    (d.columnNames types).map (d.typeFault types) ++
    [delimiterFault d.options.fieldDelimiter, delimiterFault d.options.lineDelimiter]

/-- Tables and directories are texts where they are given. -/
structure Placed : Prop where
  inputTable : d.inputTable.IsOptionalText
  outputTable : ∃ t, d.outputTable = .text t
  warehouseDir : ∃ t, d.options.warehouseDir = .text t
  targetDir : d.options.targetDir.IsOptionalText
  database : d.options.database.IsOptionalText
  externalDir : d.options.externalDir.IsOptionalText

/-- Tables and directories are texts where they are given, a source that is asked answers with
texts for names, and no info has a number that is too long to be written. -/
structure Declared : Prop where
  inputTable : d.inputTable.IsOptionalText
  outputTable : ∃ t, d.outputTable = .text t
  warehouseDir : ∃ t, d.options.warehouseDir = .text t
  targetDir : d.options.targetDir.IsOptionalText
  database : d.options.database.IsOptionalText
  externalDir : d.options.externalDir.IsOptionalText
  partitionKey : d.options.partitionKey.IsOptionalText
  codec : d.options.codec.IsOptionalText
  source : types = none → ∀ source, d.source = some source → d.inputTable.isGiven = true →
    ∃ (names : List Text) (entries : Entries ColumnInfo),
      source.columnNames d.inputTable = .ok (names.map .text) ∧
        source.columnInfo d.inputTable = .ok entries ∧ ∀ e ∈ entries, ∃ t, e.1 = .text t
  infos : ∀ e ∈ (d.columnInfo types).toList, e.2.hasLongNumber = false
  count : (d.columnNames types).length ≤ maxItems

end Definition

/-! ## Stage by stage -/

namespace Definition
variable {d : Definition} {types : Option (NameMap ColumnInfo)}

theorem Declared.placed (h : d.Declared types) : d.Placed := { h with }

/-- Texts make a map whatever they are. -/
theorem ofEntries_texts {entries : Entries ColumnInfo} (h : ∀ e ∈ entries, ∃ t, e.1 = .text t) :
    ∃ m, NameMap.ofEntries entries = .ok m := by
  have hrange : entries ∈
      Set.range (List.map fun p : Text × ColumnInfo => (Value.text p.1, p.2)) := by
    rw [Set.range_list_map]
    intro e he
    obtain ⟨t, ht⟩ := h e he
    exact ⟨(t, e.2), Prod.ext ht.symm rfl⟩
  obtain ⟨pairs, rfl⟩ := hrange
  exact ⟨_, NameMap.ofEntries_ofPairs pairs⟩

theorem filterMap_texts (names : List Text) :
    ((names.map Value.text).filterMap fun
      | .text t => some t
      | _ => none) = names := by
  induction names with
  | nil => rfl
  | cons n rest ih => simp

/-- Names and infos that are found are those of the definition. -/
theorem schema_known {names : List Text} {info : NameMap ColumnInfo}
    (h : d.schema types = .ok (names.map .text, info)) :
    d.columnNames types = names ∧ d.columnInfo types = info := by
  unfold columnNames columnInfo
  rw [h]
  exact ⟨filterMap_texts names, rfl⟩

theorem schema_ends (h : d.Declared types) :
    (liftM (d.schema types) : Report (List Value × NameMap ColumnInfo)).Ends
      [d.schemaFault types] fun schema =>
        schema = ((d.columnNames types).map .text, d.columnInfo types) := by
  have hknown : ∀ (names : List Text) (info : NameMap ColumnInfo),
      d.schema types = .ok (names.map .text, info) → d.schemaFault types = none →
      (liftM (d.schema types) : Report (List Value × NameMap ColumnInfo)).Ends
        [d.schemaFault types] fun schema =>
          schema = ((d.columnNames types).map .text, d.columnInfo types) := by
    intro names info hschema hfault
    obtain ⟨hnames, hinfo⟩ := schema_known hschema
    exact .met hfault hschema (by rw [hnames, hinfo])
  cases types with
  | some types => exact hknown types.names types rfl rfl
  | none =>
    cases hsource : d.source with
    | none =>
      have hschema : d.schema none = .error (.refused .noSchema) := by simp [schema, hsource]
      exact .unmet (by simp [schemaFault, hsource]) hschema
    | some source =>
      cases hgiven : d.inputTable.isGiven with
      | false =>
        have hschema : d.schema none = .error (.refused .noSchema) := by
          simp [schema, hsource, hgiven]
        exact .unmet (by simp [schemaFault, hgiven]) hschema
      | true =>
        obtain ⟨names, entries, hnames, hentries, htexts⟩ := h.source rfl source hsource hgiven
        obtain ⟨info, hinfo⟩ := ofEntries_texts htexts
        refine hknown names info ?_ (by simp [schemaFault, hsource, hgiven])
        simp [schema, hsource, hgiven, hnames, hentries, hinfo, bind, Except.bind, pure,
          Except.pure]

/-- What a column is described by. -/
def Describes (d : Definition) (types : Option (NameMap ColumnInfo)) (name : Text) (c : Column) :
    Prop :=
  ∃ info, (d.columnInfo types).get? name = some info ∧ Column.ofInfo (.text name) info = .ok c

theorem columns_ends (h : d.Declared types) :
    (liftM (d.columns types) : Report (List Column)).Ends
      (d.schemaFault types :: (d.columnNames types).map (d.infoFault types))
      (List.Forall₂ (d.Describes types) (d.columnNames types)) := by
  unfold columns
  rw [Report.lift_bind, ← List.singleton_append]
  refine .bind (schema_ends h) fun schema hschema => ?_
  obtain rfl := hschema
  dsimp only [Writer.describeAll]
  rw [Report.lift_mapM]
  refine .mapM (R := fun name v => v = .text name) ?_ ?_
  · exact List.forall₂_map_right_iff.2 (List.forall₂_same.2 fun _ _ => rfl)
  · rintro name _ rfl
    dsimp only [NameMap.nameOf, Except.toOption, Option.bind]
    cases hinfo : (d.columnInfo types).get? name with
    | none =>
      refine .unmet (f := .refused (.unsupportedType (.text name) (.text "unknown"))) ?_ rfl
      simp only [infoFault, hinfo]
    | some info =>
      cases hcolumn : Column.ofInfo (.text name) info with
      | error fault =>
        refine .unmet (f := .refused (.column fault)) ?_ (by dsimp only; rw [hcolumn]; rfl)
        simp only [infoFault, hinfo, hcolumn]
      | ok c =>
        refine .met (a := c) ?_ (by dsimp only; rw [hcolumn]; rfl) ⟨info, hinfo, hcolumn⟩
        simp only [infoFault, hinfo, hcolumn]

/-- Described columns have the names that they are described under. -/
theorem map_name {names : List Text} {columns : List Column}
    (h : List.Forall₂ (d.Describes types) names columns) :
    columns.map (·.name) = names.map .text := by
  induction h with
  | nil => rfl
  | cons hc _ ih =>
    obtain ⟨info, -, hcolumn⟩ := hc
    rw [List.map_cons, List.map_cons, Column.ofInfo_name hcolumn, ih]

theorem findSome?_unmet (p : Text → Bool) (f : Text → Failure) (l : List Text) :
    (l.map fun x => if p x then none else some (f x)).findSome? id =
      (l.find? fun x => !p x).map f := by
  induction l with
  | nil => rfl
  | cons x rest ih =>
    cases hx : p x with
    | true => simpa [hx] using ih
    | false => simp [hx]

theorem overrides_ends {columns : List Column} (h : d.columns types = .ok columns)
    (hcolumns : List.Forall₂ (d.Describes types) (d.columnNames types) columns) :
    (liftM (d.validate types) : Report Unit).Ends
      (d.overrides.names.map (d.overrideFault types)) fun _ => True := by
  have hfirst : (d.overrides.names.map (d.overrideFault types)).findSome? id =
      (d.overrides.names.find? fun x =>
        !(d.columnNames types).any (Listing.sameName · x)).map
          fun x => .refused (.unresolvedOverride x) :=
    findSome?_unmet (fun x => (d.columnNames types).any (Listing.sameName · x)) _ _
  unfold Report.Ends
  rw [hfirst, Writer.validate_of_columns h, map_name hcolumns, checkOverrides_text]
  cases d.overrides.names.find? fun x => !(d.columnNames types).any (Listing.sameName · x) with
  | some x => rfl
  | none => exact ⟨(), rfl, trivial⟩

theorem partition_ends (h : d.Declared types) {columns : List Column}
    (hcolumns : List.Forall₂ (d.Describes types) (d.columnNames types) columns) :
    (liftM (d.checkPartition columns) : Report Unit).Ends
      ((d.columnNames types).map d.partitionFault) fun _ => True := by
  unfold checkPartition
  dsimp only
  rcases h.partitionKey with hkey | ⟨key, hkey⟩
  · have hnone : ∀ x ∈ (d.columnNames types).map d.partitionFault, x = none := by
      simp [partitionFault, hkey]
    exact .of_ok hnone (by rw [hkey]; rfl) trivial
  · by_cases hempty : key = []
    · have hnone : ∀ x ∈ (d.columnNames types).map d.partitionFault, x = none := by
        simp [partitionFault, hkey, hempty]
      exact .of_ok hnone (by rw [hkey, hempty]; rfl) trivial
    · have hgiven : (Value.text key).isGiven = true := Value.isGiven_text.2 hempty
      rw [hkey, hgiven]
      refine .forM hcolumns fun name c hc => ?_
      obtain ⟨info, -, hcolumn⟩ := hc
      rw [Column.ofInfo_name hcolumn]
      show (liftM (if Text.fold name = Text.fold key then
        .error (.refused (.partitionIsColumn (.text name))) else .ok () : Except Failure Unit) :
          Report Unit).Ends _ _
      by_cases hsame : Text.fold name = Text.fold key
      · rw [if_pos hsame]
        exact .unmet (by simp [partitionFault, hkey, hempty, hsame]) rfl
      · rw [if_neg hsame]
        exact .met (by simp [partitionFault, hkey, hsame]) rfl trivial

theorem emit_ends {e : Event} (h : ∀ f ∈ e.fields (fun _ => "") .zero, f.2.Writable) :
    (Report.emit e).Ends [] fun _ => True := by
  obtain ⟨s, hs⟩ := Event.text_of_fields h
  unfold Report.emit
  rw [hs]
  exact ⟨(), rfl, trivial⟩

theorem type_ends (h : d.Declared types) (hoverrides : ∀ e ∈ d.overrides.toList, e.2 ≠ [])
    {name : Text} {c : Column} (hc : d.Describes types name c) :
    (liftM (d.resolve c) : Report Text).Ends [d.typeFault types name] fun _ => True := by
  obtain ⟨info, hinfo, hcolumn⟩ := hc
  have hname := Column.ofInfo_name hcolumn
  have hfault : d.typeFault types name =
      if (d.overrides.get? name).isSome || c.hiveType?.isSome then none
      else some (.refused (.unsupportedType (.text name) c.type.asValue)) := by
    simp only [typeFault, hinfo, Option.map_some, hcolumn]
  unfold resolve
  rw [Resolution.ofColumn_text hname hoverrides, hfault, hname]
  cases d.overrides.get? name with
  | some given => exact .met rfl rfl trivial
  | none =>
    cases c.hiveType? with
    | some type => exact .met rfl rfl trivial
    | none =>
      obtain ⟨e, he, rfl⟩ := NameMap.exists_mem_of_get? hinfo
      have hshown : (Refusal.unsupportedType (.text name) c.type.asValue).failure =
          .refused (.unsupportedType (.text name) c.type.asValue) := by
        simp [Refusal.failure, Refusal.shown, Value.hasLongNumber,
          Column.ofInfo_type hcolumn (h.infos e he)]
      rw [hshown]
      exact .unmet rfl rfl

theorem resolve_ends (h : d.Declared types) (hoverrides : ∀ e ∈ d.overrides.toList, e.2 ≠ [])
    (hvalid : d.validate types = .ok ()) {name : Text} {c : Column}
    (hc : d.Describes types name c) :
    (d.resolveReport types c).Ends [d.typeFault types name] fun _ => True := by
  unfold resolveReport
  rw [hvalid]
  refine .ok_then (P := fun _ => True) (.pure trivial) fun _ _ => ?_
  refine .then_ok (type_ends h hoverrides hc) fun type _ => ?_
  obtain ⟨info, -, hcolumn⟩ := hc
  have hname := Column.ofInfo_name hcolumn
  obtain ⟨table, htable⟩ := h.outputTable
  by_cases himprovised : c.type.isImprovised = true
  · rw [if_pos himprovised, hname, htable]
    refine .then_ok (emit_ends ?_) fun _ _ => .pure trivial
    simp [Event.fields, Value.writable_text]
  · rw [if_neg himprovised]
    exact .pure trivial

theorem escape_ends (v : Value) :
    (liftM ((Delimiter.escape v).mapError fun f => (Refusal.delimiter f).failure) :
      Report String).Ends [delimiterFault v] fun _ => True := by
  unfold delimiterFault
  cases Delimiter.escape v with
  | error fault => exact .unmet rfl rfl
  | ok escaped => exact .met rfl rfl trivial

theorem rowFormat_ends :
    (liftM d.rowFormat : Report String).Ends
      [delimiterFault d.options.fieldDelimiter, delimiterFault d.options.lineDelimiter]
      fun _ => True := by
  unfold rowFormat
  dsimp only
  rw [Report.lift_bind]
  show Report.Ends _ ([_] ++ [_]) _
  refine .bind (escape_ends _) fun field _ => ?_
  rw [Report.lift_bind]
  exact .then_ok (escape_ends _) fun line _ => .pure trivial

theorem storage_ok (h : d.Declared types) : ∃ s, d.storage = .ok s := by
  obtain ⟨indexed, hindexed⟩ : ∃ b, Codec.isIndexed d.options.codec = .ok b := by
    unfold Codec.isIndexed
    split
    · exact ⟨_, rfl⟩
    · rename_i hgiven
      obtain ⟨codec, hcodec⟩ := h.codec.text_of_given (by simpa using hgiven)
      rw [hcodec]
      exact ⟨_, rfl⟩
  unfold storage
  rw [hindexed]
  cases indexed <;> exact ⟨_, rfl⟩

theorem location_ok (h : d.Placed) : ∃ t, d.location = .ok t := by
  unfold location
  split
  · exact ⟨_, rfl⟩
  · rename_i hgiven
    obtain ⟨dir, hdir⟩ := h.externalDir.text_of_given (by simpa using hgiven)
    rw [hdir]
    exact ⟨_, rfl⟩

theorem createTable_ends (h : d.Declared types) (typed : List (Value × Text)) :
    (liftM (d.createTable typed) : Report Text).Ends
      [delimiterFault d.options.fieldDelimiter, delimiterFault d.options.lineDelimiter]
      fun _ => True := by
  obtain ⟨storage, hstorage⟩ := storage_ok h
  obtain ⟨location, hlocation⟩ := location_ok h.placed
  unfold createTable
  rw [Report.lift_bind]
  refine .then_ok rowFormat_ends fun row _ => ?_
  rw [hstorage, hlocation]
  exact .pure trivial

theorem sourcePath_ok (h : d.Placed) : ∃ path, d.sourcePath = .ok path := by
  obtain ⟨root, hroot⟩ := h.warehouseDir
  obtain ⟨name, hname⟩ : ∃ t, (if d.options.targetDir.isGiven then d.options.targetDir
      else if d.inputTable.isGiven then d.inputTable else d.outputTable) = .text t := by
    split
    · rename_i hgiven
      exact h.targetDir.text_of_given hgiven
    · split
      · rename_i hgiven
        exact h.inputTable.text_of_given hgiven
      · exact h.outputTable
  unfold sourcePath
  dsimp only
  rw [hname, hroot]
  exact ⟨_, rfl⟩

theorem loadData_ok (h : d.Placed) : ∃ load, d.loadData = .ok load := by
  obtain ⟨path, hpath⟩ := sourcePath_ok h
  unfold loadData
  rw [hpath]
  exact ⟨_, rfl⟩

/-- A request can be reported to start. -/
theorem emit_started_ends (h : d.Placed) :
    (Report.emit (.started 0 d.inputTable d.outputTable d.options.database)).Ends []
      fun _ => True := by
  obtain ⟨table, htable⟩ := h.outputTable
  refine emit_ends ?_
  simp [Event.fields, htable, Value.writable_text, h.inputTable.writable, h.database.writable]

/-- A failure goes on after it was reported. -/
theorem failureReport_result {α : Type} (h : d.outputTable.Writable) (f : Failure) :
    (d.failureReport f : Report α).result = .error f := by
  unfold failureReport
  cases f with
  | refused r =>
    have hreported : (Report.emit (.failed 0 d.outputTable r)).Ends [] fun _ => True := by
      refine emit_ends ?_
      simp [Event.fields, h, Value.writable_text]
    obtain ⟨_, hok, -⟩ := hreported
    exact congrArg Report.result (Report.bind_of_ok hok _)
  | _ => rfl

theorem rescue_ends {α : Type} {P : α → Prop} {faults : List (Option Failure)} {r : Report α}
    (h : d.Declared types) (hr : r.Ends faults P) : (r.rescue d.failureReport).Ends faults P := by
  unfold Report.Ends Report.rescue at *
  cases hfirst : faults.findSome? id with
  | some f =>
    rw [hfirst] at hr
    rw [hr]
    obtain ⟨table, htable⟩ := h.outputTable
    exact failureReport_result (htable ▸ Value.writable_text table) f
  | none =>
    rw [hfirst] at hr
    obtain ⟨a, ha, hp⟩ := hr
    rw [ha]
    exact ⟨a, rfl, hp⟩

theorem createReport_ends (h : d.Declared types) (hoverrides : ∀ e ∈ d.overrides.toList, e.2 ≠ []) :
    (d.createReport types).Ends (d.faults types) fun _ =>
      ∃ columns, d.columns types = .ok columns ∧ columns.length = (d.columnNames types).length := by
  unfold createReport faults
  simp only [List.append_assoc]
  refine .bind (columns_ends h).result fun columns hcolumns => ?_
  obtain ⟨hresult, hdescribed⟩ := hcolumns
  refine .bind (overrides_ends hresult hdescribed).result fun _ hvalid => ?_
  refine .bind (partition_ends h hdescribed) fun _ _ => ?_
  refine .bind (.mapM (S := fun _ _ => True) hdescribed fun name c hc =>
    .then_ok (resolve_ends h hoverrides hvalid.1 hc) fun type _ => .pure trivial) fun typed _ => ?_
  exact (createTable_ends h typed).mono fun _ _ => ⟨columns, hresult, hdescribed.length_eq.symm⟩

/-- A request ends in the first of its faults, or with both statements. -/
theorem generateReport_ends (h : d.Declared types)
    (hoverrides : ∀ e ∈ d.overrides.toList, e.2 ≠ []) :
    (d.generateReport types).Ends (d.faults types) fun _ => True := by
  obtain ⟨table, htable⟩ := h.outputTable
  unfold generateReport
  refine .ok_then (emit_started_ends h.placed) fun _ _ => ?_
  have hstatements : (d.statementsReport types).Ends (d.faults types) fun _ =>
      ∃ columns, d.columns types = .ok columns ∧
        columns.length = (d.columnNames types).length := by
    unfold statementsReport
    refine .then_ok (createReport_ends h hoverrides) fun create hcolumns => ?_
    obtain ⟨load, hload⟩ := loadData_ok h.placed
    rw [hload]
    exact .pure hcolumns
  refine .then_ok (rescue_ends h hstatements) fun statements hcolumns => ?_
  obtain ⟨columns, hresult, hlength⟩ := hcolumns
  rw [hresult]
  refine .ok_then (P := fun found => found = columns) (.pure rfl) fun found hfound => ?_
  refine .ok_then (emit_ends ?_) fun _ _ => .pure trivial
  have hcount : Number.isLong columns.length = false :=
    isLong_of_le_maxItems (hlength ▸ h.count)
  simp [Event.fields, htable, hfound, Value.writable_text, Value.writable_int hcount,
    Value.writable_float]

end Definition

/-- A definition is what it is made from, with the overrides that are read from its options. -/
theorem Definition.make_eq_ok {options : Options} {source : Option SchemaSource}
    {inputTable outputTable : Value} {withComments terminate : Bool} {clock : Moment}
    {d : Definition} :
    Definition.make options source inputTable outputTable withComments terminate clock = .ok d ↔
      outputTable.isGiven = true ∧ Overrides.ofValue options.overrides = .ok d.overrides ∧
        d = ⟨options, source, inputTable, outputTable, withComments, terminate, clock,
          d.overrides⟩ := by
  unfold Definition.make
  cases outputTable.isGiven with
  | false =>
    constructor
    · rintro ⟨⟩
    · rintro ⟨⟨⟩, -⟩
  | true =>
    simp only [Bool.not_true, Bool.false_eq_true, if_false]
    constructor
    · intro h
      obtain ⟨overrides, hread, h⟩ := bind_eq_ok.1 h
      obtain rfl := Except.ok.inj h
      exact ⟨trivial, hread, rfl⟩
    · rintro ⟨-, hread, hd⟩
      exact bind_eq_ok.2 ⟨_, hread, congrArg Except.ok hd.symm⟩

/-- The overrides of a definition are read from its options. -/
theorem Definition.make_overrides {options : Options} {source : Option SchemaSource}
    {inputTable outputTable : Value} {withComments terminate : Bool} {clock : Moment}
    {d : Definition}
    (h : Definition.make options source inputTable outputTable withComments terminate clock =
      .ok d) : Overrides.ofValue options.overrides = .ok d.overrides :=
  (Definition.make_eq_ok.1 h).2.1

namespace Writer

/-- In whatever state a run of calls left the writer, a request returns both statements exactly
when all its conditions are met, and otherwise it fails as the first condition that is not met
says. -/
theorem generate_faults {options : Options} {source : Option SchemaSource}
    {inputTable outputTable : Value} {withComments terminate : Bool} {clock : Moment}
    {d : Definition}
    (hmake : Definition.make options source inputTable outputTable withComments terminate clock =
      .ok d) (calls : List Call)
    (hdeclared : d.Declared (after { definition := d } calls).types) :
    let w := after { definition := d } calls
    ((∃ statements, (w.outcome .generate).1 = .ok (.statements statements)) ↔
        ∀ x ∈ d.faults w.types, x = none) ∧
      ∀ f, (w.outcome .generate).1 = .error f ↔ (d.faults w.types).findSome? id = some f := by
  intro w
  have hoverrides := Overrides.ofValue_nonempty (Definition.make_overrides hmake)
  have hcoherent := after_coherent (coherent_new d) calls
  rw [← hcoherent.sameTypes] at hcoherent
  have hends : (Call.generate.report d w.types).Ends (d.faults w.types) fun reply =>
      ∃ statements, reply = .statements statements :=
    .then_ok (Definition.generateReport_ends hdeclared hoverrides) fun statements _ =>
      .pure ⟨statements, rfl⟩
  obtain ⟨hok, herror⟩ := hends.exact_of
  rw [outcome_eq_report hcoherent]
  refine ⟨?_, herror⟩
  rw [← hok]
  constructor
  · rintro ⟨statements, h⟩
    exact ⟨_, h, statements, rfl⟩
  · rintro ⟨_, h, statements, rfl⟩
    exact ⟨statements, h⟩

/-- A column without a Hive type ends a request before a delimiter out of range does. -/
theorem generate_faults_blob :
    let source := SchemaSource.fixed [.text "a", .text "b"]
      [(.text "a", .value (.text "DATE")), (.text "b", .value (.text "BLOB"))]
    let d : Definition :=
      ⟨{ fieldDelimiter := .int 300 }, some source, .text "in", .text "out", false, false,
        ⟨⟨2024, 1, 1⟩, 0, 0, 0, 0, none⟩, ∅⟩
    (outcome { definition := d } .generate).1 =
      .error (.refused (.unsupportedType (.text "b") (.text "BLOB"))) := by
  intro source d
  have hmake : Definition.make d.options (some source) (.text "in") (.text "out") false false
      d.clock = .ok d := rfl
  have hdeclared : d.Declared none :=
    { inputTable := .inr ⟨_, rfl⟩
      outputTable := ⟨_, rfl⟩
      warehouseDir := ⟨_, rfl⟩
      targetDir := .inl rfl
      database := .inl rfl
      externalDir := .inl rfl
      partitionKey := .inl rfl
      codec := .inl rfl
      source := by
        rintro - _ ⟨rfl⟩ -
        exact ⟨["a", "b"], _, rfl, rfl, by simp⟩
      infos := by decide
      count := by decide }
  exact ((generate_faults hmake [] hdeclared).2 _).2 rfl

end Writer

end HiveTable
