import HiveTable.Proofs.Column
import HiveTable.Proofs.Request
import HiveTable.Proofs.SchemaSource
import HiveTable.Proofs.Writer.GivenTypes

/-!
# The columns of a request

An accepted request describes each of its columns by an entry of its own. The writer that is made
for it is told the names of all columns and looks each name up, and there only one column is found
for all entries with one name in any letter case (`Definition.columns_of_catalog`). So a column
keeps its name and its place, and its type as well where the entries with its name agree:
`describe_of_definition`.
-/

namespace HiveTable

namespace Column

/-- The same but for the name. -/
structure Alike (a b : Column) : Prop where
  type : a.type = b.type
  precision : a.precision = b.precision
  scale : a.scale = b.scale

namespace Alike
variable {a b c : Column}

instance : Decidable (a.Alike b) :=
  decidable_of_iff (a.type = b.type ∧ a.precision = b.precision ∧ a.scale = b.scale)
    ⟨fun ⟨htype, hprecision, hscale⟩ => ⟨htype, hprecision, hscale⟩,
      fun h => ⟨h.type, h.precision, h.scale⟩⟩

protected theorem symm (h : a.Alike b) : b.Alike a :=
  ⟨h.type.symm, h.precision.symm, h.scale.symm⟩

protected theorem trans (h : a.Alike b) (h' : b.Alike c) : a.Alike c :=
  ⟨h.type.trans h'.type, h.precision.trans h'.precision, h.scale.trans h'.scale⟩

end Alike

theorem alike_iff {a b : Column} : { a with name := b.name } = b ↔ a.Alike b := by
  obtain ⟨name, type, precision, scale⟩ := a
  obtain ⟨name', type', precision', scale'⟩ := b
  constructor
  · intro h
    injection h with _ htype hprecision hscale
    exact ⟨htype, hprecision, hscale⟩
  · rintro ⟨rfl, rfl, rfl⟩
    rfl

end Column

/-- A catalog whose columns have texts for names that are not empty. -/
def Catalog.Named (catalog : Catalog) : Prop :=
  ∀ c ∈ catalog.columns, c.name.isGiven = true ∧ ∃ name, c.name = .text name

theorem Catalog.Named.name_eq {catalog : Catalog} (h : catalog.Named) :
    ∀ c ∈ catalog.columns, c.name = .text c.name.display := by
  intro c hc
  obtain ⟨name, hname⟩ := (h c hc).2
  rw [hname]
  rfl

theorem Catalog.Named.map_name {catalog : Catalog} (h : catalog.Named) :
    catalog.columns.map (·.name) = (catalog.columns.map (·.name.display)).map .text := by
  rw [List.map_map]
  exact List.map_congr_left h.name_eq

namespace Definition
variable {d : Definition} {catalog : Catalog}

/-- A definition over a catalog asks it for its own table. Under the name of each column it is told
a column of that name. -/
theorem schema_of_catalog (hsource : d.source = some catalog.source)
    (htable : d.inputTable = catalog.table) (hgiven : d.inputTable.isGiven = true)
    (hkey : catalog.table.isKey = true) (hnamed : catalog.Named) :
    ∃ m : NameMap Column, catalog.infoOf catalog.table = .ok m ∧
      d.schema none = .ok ((catalog.columns.map (·.name.display)).map .text,
        NameMap.ofList (m.toList.map fun p => (p.1, ColumnInfo.column p.2))) ∧
      (∀ c ∈ catalog.columns, ∃ b ∈ catalog.columns, Column.sameName b c = true ∧
        m.get? c.name.display = some b) ∧
      ∀ e ∈ m.toList, e.2 ∈ catalog.columns := by
  have hpairs : catalog.columns.map (fun c => (c.name, c)) =
      (catalog.columns.map fun c => (c.name.display, c)).map fun p => (.text p.1, p.2) := by
    rw [List.map_map]
    exact List.map_congr_left fun c hc => congrArg (·, c) (hnamed.name_eq c hc)
  obtain ⟨m, hinfo, hget, hmem⟩ := Catalog.infoOf_table hkey hpairs
  refine ⟨m, hinfo, ?_, fun c hc => ?_, fun e he => ?_⟩
  · have hcolumnNames := Catalog.columnNames_table hkey
    have hcolumnInfo := Catalog.columnInfo_table hinfo
    rw [htable] at hgiven
    unfold schema
    simp only [hsource, hgiven, htable, hcolumnNames, hcolumnInfo, hnamed.map_name, ok_bind,
      NameMap.ofEntries_ofPairs]
    rfl
  · obtain ⟨q, hq, hsame, hfound⟩ := hget _ (List.mem_map_of_mem hc)
    obtain ⟨b, hb, rfl⟩ := List.mem_map.1 hq
    refine ⟨b, hb, ?_, hfound⟩
    rw [Column.sameName, hnamed.name_eq b hb, hnamed.name_eq c hc]
    exact hsame
  · obtain ⟨p, hp, hvalue⟩ := hmem e he
    obtain ⟨b, hb, rfl⟩ := List.mem_map.1 hp
    exact hvalue ▸ hb

/-- Each column of the catalog is described under its name as one that is found for that name, and
which one that is does not depend on letter case. -/
theorem columns_of_catalog (hsource : d.source = some catalog.source)
    (htable : d.inputTable = catalog.table) (hgiven : d.inputTable.isGiven = true)
    (hkey : catalog.table.isKey = true) (hnamed : catalog.Named) :
    ∃ found : Column → Column,
      d.columns none = .ok (catalog.columns.map fun c => { found c with name := c.name }) ∧
      (∀ c ∈ catalog.columns, found c ∈ catalog.columns ∧ Column.sameName (found c) c = true) ∧
      ∀ a ∈ catalog.columns, ∀ b ∈ catalog.columns, Column.sameName a b = true →
        found a = found b := by
  obtain ⟨m, -, hschema, hfound, -⟩ := schema_of_catalog hsource htable hgiven hkey hnamed
  refine ⟨fun c => (m.get? c.name.display).getD c, ?_, fun c hc => ?_, fun a ha b hb hab => ?_⟩
  all_goals dsimp only
  · rw [Writer.columns_of_schema hschema, Writer.describeAll_text, mapM_eq_ok,
      List.forall₂_map_left_iff, List.forall₂_map_right_iff, List.forall₂_same]
    intro c hc
    obtain ⟨b, -, -, hb⟩ := hfound c hc
    obtain ⟨hcgiven, name, hname⟩ := hnamed c hc
    rw [hname] at hb hcgiven ⊢
    have hget : m.get? name = some b := hb
    show Writer.describeName _ name = _
    unfold Writer.describeName
    rw [NameMap.get?_map_toList, hget, hb, Option.getD_some]
    show (Column.rename (.text name) b).mapError _ = _
    rw [Column.rename_text hcgiven]
    rfl
  · obtain ⟨b, hb, hsame, hget⟩ := hfound c hc
    rw [hget]
    exact ⟨hb, hsame⟩
  · obtain ⟨b', -, -, hb'⟩ := hfound b hb
    have hsame : m.get? a.name.display = m.get? b.name.display := by
      obtain ⟨-, name, hname⟩ := hnamed a ha
      obtain ⟨-, name', hname'⟩ := hnamed b hb
      rw [Column.sameName, hname, hname'] at hab
      rw [hname, hname']
      exact m.get?_congr hab
    rw [hsame, hb']
    rfl

end Definition

theorem Definition.make_ok {options : Options} {source : Option SchemaSource}
    {inputTable outputTable : Value} {withComments terminate : Bool} {clock : Moment}
    {d : Definition}
    (h : make options source inputTable outputTable withComments terminate clock = .ok d) :
    d.source = source ∧ d.inputTable = inputTable := by
  unfold make at h
  split at h
  · cases h
  obtain ⟨overrides, -, h⟩ := bind_eq_ok.1 h
  obtain rfl := Except.ok.inj h
  exact ⟨rfl, rfl⟩

namespace Request

/-- What stands in a field of a request. -/
def field (request : Value) (name : String) : Value :=
  match request.opened with
  | .mapping fields => (Entries.field? fields name).getD .null
  | _ => .null

theorem field?_map (l : List (String × Value)) (name : String) :
    Entries.field? (l.map fun f => (Value.text (Text.ofString f.1), f.2)) name = l.lookup name := by
  have hsame : ∀ k : String, Value.same (.text (Text.ofString k)) (.text (Text.ofString name)) =
      (name == k) := by
    intro k
    rw [Value.same, Bool.eq_iff_iff, beq_iff_eq, beq_iff_eq]
    refine ⟨fun h => ?_, fun h => h ▸ rfl⟩
    simpa using (congrArg Text.string? h).symm
  unfold Entries.field?
  induction l with
  | nil => rfl
  | cons f rest ih =>
    rw [List.map_cons, Entries.get?, hsame, List.lookup_cons, ih]
    cases name == f.1 <;> rfl

/-- A mapping that is written down holds what is listed first under a name. -/
theorem field_entries (l : List (String × Value)) (name : String) :
    field (entries l) name = (l.lookup name).getD .null := by
  rw [← field?_map]
  rfl

/-- The descriptions of the columns in a request. -/
def specs (request : Value) : List Value :=
  match (field request "columns").opened with
  | .list specs => specs
  | _ => []

/-- An accepted request has a catalog of its columns, under its table. -/
theorem catalog_of_definition {clock : Moment} {request : Value} {d : Definition}
    (h : definition clock request = .ok d) :
    ∃ catalog : Catalog, d.source = some catalog.source ∧ d.inputTable = catalog.table ∧
      d.inputTable.isGiven = true ∧ catalog.table.isKey = true ∧
      (specs request).mapM Catalog.columnOf = .ok catalog.columns := by
  unfold definition at h
  split at h
  case h_2 => cases h
  rename_i fields hopened
  dsimp only at h
  obtain ⟨_, -, h⟩ := bind_eq_ok.1 h
  split at h
  · cases h
  rename_i hgiven
  split at h
  case h_3 => cases h
  all_goals
    rename_i hlist
    obtain ⟨_, hspecs, h⟩ := bind_eq_ok.1 h
    obtain rfl := Except.ok.inj hspecs
    obtain ⟨catalog, hcatalog, h⟩ := bind_eq_ok.1 h
    obtain ⟨options, -, h⟩ := bind_eq_ok.1 h
    obtain ⟨htable, hkey, hcolumns⟩ := Catalog.ofSpecs_ok (mapError_eq_ok.1 hcatalog)
    obtain ⟨hsource, hinput⟩ := Definition.make_ok h
    refine ⟨catalog, hsource, hinput.trans htable.symm, ?_, htable ▸ hkey, ?_⟩
    · rw [hinput]
      simpa using hgiven
    · unfold specs field
      rw [hopened]
      dsimp only
      rw [hlist]
      exact hcolumns

/-- The writer of an accepted request whose columns have texts for names describes a column for
each entry, in order and under the name of the entry. The rest of a column is that of some entry
with this name, so the columns are those that the entries describe by themselves just if entries
with one name are alike. -/
theorem describe_of_definition {clock : Moment} {request : Value} {d : Definition}
    (h : definition clock request = .ok d)
    (hnames : ∀ spec ∈ specs request, ∃ name, Catalog.specName spec = .text name) :
    ∃ own columns : List Column,
      (specs request).mapM (fun spec => Column.ofInfo (Catalog.specName spec) (.value spec)) =
        .ok own ∧
      (Writer.perform { definition := d } Writer.describe).1 = .ok columns ∧
      List.Forall₂ (fun c o => c.name = o.name ∧
        ∃ other ∈ own, Column.sameName other o = true ∧ c.Alike other) columns own ∧
      (columns = own ↔
        ∀ a ∈ own, ∀ b ∈ own, Column.sameName a b = true → a.Alike b) := by
  obtain ⟨catalog, hsource, htable, hgiven, hkey, hspecs⟩ := catalog_of_definition h
  have hown : (specs request).mapM (fun spec =>
      Column.ofInfo (Catalog.specName spec) (.value spec)) = .ok catalog.columns :=
    mapM_eq_ok.2 ((mapM_eq_ok.1 hspecs).imp fun _ _ hc => (Catalog.columnOf_ok hc).2.2)
  have hnamed : catalog.Named := by
    intro c hc
    obtain ⟨spec, hspec, hcolumn⟩ := exists_of_mem_mapM hspecs hc
    obtain ⟨hcgiven, hname, -⟩ := Catalog.columnOf_ok hcolumn
    exact ⟨hcgiven, hname ▸ hnames spec hspec⟩
  obtain ⟨found, hcolumns, hfound, hsame⟩ :=
    Definition.columns_of_catalog hsource htable hgiven hkey hnamed
  obtain ⟨w', hrun, -⟩ := Writer.describe_follows _ (Writer.coherent_new d)
  refine ⟨catalog.columns, catalog.columns.map fun c => { found c with name := c.name }, hown,
    by rw [hrun]; exact hcolumns, ?_, ?_⟩
  · refine List.forall₂_map_left_iff.2 (List.forall₂_same.2 fun c hc => ?_)
    exact ⟨rfl, found c, (hfound c hc).1, (hfound c hc).2, ⟨rfl, rfl, rfl⟩⟩
  · have hself : catalog.columns.map (fun c => { found c with name := c.name }) = catalog.columns ↔
        ∀ c ∈ catalog.columns, (found c).Alike c := by
      conv_lhs => rhs; rw [← List.map_id catalog.columns]
      rw [List.map_inj_left]
      exact forall₂_congr fun c _ => Column.alike_iff
    rw [hself]
    constructor
    · intro halike a ha b hb hab
      have hfounda := halike a ha
      rw [hsame a ha b hb hab] at hfounda
      exact hfounda.symm.trans (halike b hb)
    · intro hagree c hc
      exact hagree _ (hfound c hc).1 c hc (hfound c hc).2

/-- Entries whose names differ in letter case keep their types if these agree. -/
theorem describe_of_definition_alike :
    let clock : Moment := ⟨⟨2024, 1, 1⟩, 0, 0, 0, 0, none⟩
    let columns := [entries [("name", .text "a"), ("type", .text "VARCHAR")],
      entries [("name", .text "b"), ("type", .text "DATE")],
      entries [("name", .text "A"), ("type", .text "VARCHAR")]]
    let request := entries [("input_table", .text "t"), ("columns", .list columns)]
    ∃ (d : Definition) (own : List Column), definition clock request = .ok d ∧
      (specs request).mapM (fun spec => Column.ofInfo (Catalog.specName spec) (.value spec)) =
        .ok own ∧
      (Writer.perform { definition := d } Writer.describe).1 = .ok own := by
  intro clock columns request
  obtain ⟨d, hd⟩ : ∃ d, definition clock request = .ok d := exists_of_isOk (by decide +kernel)
  have hnames : ∀ spec ∈ specs request, ∃ name, Catalog.specName spec = .text name := by
    have hkey : Text.ofString "input_table" ≠ Text.ofString "columns" := by decide +kernel
    have hspecs : specs request = columns := by
      simp [request, specs, field, entries, Entries.field?, Entries.get?, Value.same, hkey,
        Value.opened]
    rw [hspecs]
    simp only [columns, List.forall_mem_cons]
    exact ⟨⟨"a", rfl⟩, ⟨"b", rfl⟩, ⟨"A", rfl⟩, by simp⟩
  obtain ⟨own, columns, hown, hcolumns, -, halike⟩ := describe_of_definition hd hnames
  have hagree : ((specs request).mapM fun spec =>
      Column.ofInfo (Catalog.specName spec) (.value spec)).toOption.all (fun own =>
        decide (∀ a ∈ own, ∀ b ∈ own, Column.sameName a b = true → a.Alike b)) = true := by
    decide +kernel
  rw [hown] at hagree
  obtain rfl := halike.2 (of_decide_eq_true hagree)
  exact ⟨d, columns, hd, hown, hcolumns⟩

/-- Of entries whose names differ in letter case the first may take the type of the second. -/
theorem describe_of_definition_letterCase :
    let clock : Moment := ⟨⟨2024, 1, 1⟩, 0, 0, 0, 0, none⟩
    let request := entries [("input_table", .text "t"), ("columns", .list
      [entries [("name", .text "a"), ("type", .text "INTEGER")],
       entries [("name", .text "A"), ("type", .text "DECIMAL"), ("precision", .int 10),
         ("scale", .int 2)]])]
    let shown (columns : List Column) : List (String × String × Option Nat × Option Nat) :=
      columns.map fun c => (c.name.quoted, c.type.describe, c.precision, c.scale)
    ∃ (d : Definition) (own columns : List Column), definition clock request = .ok d ∧
      (specs request).mapM (fun spec => Column.ofInfo (Catalog.specName spec) (.value spec)) =
        .ok own ∧
      (Writer.perform { definition := d } Writer.describe).1 = .ok columns ∧
      shown own = [("'a'", "INTEGER", none, none), ("'A'", "DECIMAL", some 10, some 2)] ∧
      shown columns =
        [("'a'", "DECIMAL", some 10, some 2), ("'A'", "DECIMAL", some 10, some 2)] := by
  intro clock request shown
  refine ⟨_, _, _, rfl, rfl, rfl, ?_, ?_⟩
  · decide +kernel
  · decide +kernel

end Request

end HiveTable
