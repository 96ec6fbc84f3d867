import HiveTable.Proofs.NameMap.Built
import HiveTable.Proofs.Value.LongNumber
import HiveTable.Proofs.Writer.Result
import HiveTable.Proofs.Writer.Transparency

/-!
# Columns that are given and columns that are learned

The infos of columns can be set by hand, or be learned of a source that gives the same names and
infos. In the first case the columns are those of the names of a map; in the second those of the
names as the source gives them, each looked up in the same map. A loop over names that repeat ends
as the loop over the names without their repetitions (`mapM_eraseDupsBy`), because a name that
repeats is described whenever the name is that it repeats (`isOk_describeName`). So both ways fail
alike, or the given columns are the learned ones without those that repeat a name
(`describe_given_eq_learned`).
-/

namespace HiveTable

/-! ## Loops over what repeats -/

section
variable {ε α β : Type} {f : α → Except ε β} {r : α → α → Bool} {s : β → β → Bool}

theorem isOk_bind (x : Except ε α) (f : α → Except ε β) :
    (x >>= f).isOk = x.toOption.any fun a => (f a).isOk := by
  cases x <;> rfl

/-- Where nothing fails can be left out before a loop or after it. -/
theorem mapM_filter {p : α → Bool} {q : β → Bool} (hkept : ∀ a b, f a = .ok b → q b = p a)
    (hdropped : ∀ a, p a = false → (f a).isOk = true) (l : List α) :
    (l.filter p).mapM f = (l.mapM f).map (List.filter q) := by
  induction l with
  | nil => rfl
  | cons a rest ih =>
    rw [List.mapM_cons]
    cases hp : p a with
    | true =>
      rw [List.filter_cons_of_pos hp, List.mapM_cons, ih]
      cases hfirst : f a with
      | error e => rfl
      | ok b =>
        have hq : q b = true := (hkept a b hfirst).trans hp
        cases rest.mapM f with
        | error e => rfl
        | ok bs =>
          show Except.ok (b :: bs.filter q) = .ok ((b :: bs).filter q)
          rw [List.filter_cons_of_pos hq]
    | false =>
      rw [List.filter_cons_of_neg (by simp [hp]), ih]
      cases hfirst : f a with
      | error e =>
        have hok := hdropped a hp
        rw [hfirst] at hok
        cases hok
      | ok b =>
        have hq : q b = false := (hkept a b hfirst).trans hp
        cases rest.mapM f with
        | error e => rfl
        | ok bs =>
          show Except.ok (bs.filter q) = .ok ((b :: bs).filter q)
          rw [List.filter_cons_of_neg (by simp [hq])]

/-- What repeats something can be left out before a loop or after it, if it fails only where that
fails. -/
theorem mapM_eraseDupsBy (hsame : ∀ a a' b b', f a = .ok b → f a' = .ok b' → s b b' = r a a')
    (hok : ∀ a a', r a a' = true → (f a).isOk = (f a').isOk) (l : List α) :
    (l.eraseDupsBy r).mapM f = (l.mapM f).map (List.eraseDupsBy s) := by
  -- What is left behind the first element is shorter, but it is no tail of the list.
  induction hn : l.length using Nat.strongRecOn generalizing l with
  | ind n ih =>
    cases l with
    | nil => rfl
    | cons a rest =>
      rw [List.eraseDupsBy_cons, List.mapM_cons, List.mapM_cons]
      cases hfirst : f a with
      | error e => rfl
      | ok b =>
        have hfilter : (rest.filter fun x => decide (r x a = false)).mapM f =
            (rest.mapM f).map (List.filter fun y => decide (s y b = false)) := by
          refine mapM_filter (fun x y hx => ?_) (fun x hx => ?_) rest
          · rw [hsame x a y b hx hfirst]
          · rw [hok x a (by simpa using hx), hfirst]
            rfl
        have hshorter : (rest.filter fun x => decide (r x a = false)).length < n := by
          rw [← hn]
          exact Nat.lt_succ_of_le (List.length_filter_le _ rest)
        rw [ih _ hshorter _ rfl, hfilter]
        cases rest.mapM f with
        | error e => rfl
        | ok bs =>
          show Except.ok (b :: (bs.filter _).eraseDupsBy s) = .ok ((b :: bs).eraseDupsBy s)
          rw [List.eraseDupsBy_cons]

/-- Where nothing repeats nothing is left out. -/
theorem eraseDupsBy_of_pairwise {l : List α} (h : l.Pairwise fun a b => r b a = false) :
    l.eraseDupsBy r = l := by
  induction l with
  | nil => rfl
  | cons a rest ih =>
    obtain ⟨hfirst, hrest⟩ := List.pairwise_cons.1 h
    rw [List.eraseDupsBy_cons, List.filter_eq_self.2 (by simpa using hfirst), ih hrest]

end

/-! ## Names -/

namespace Text

theorem caseImage_ne_nil {runs : List CaseRun} {expansions : List (Nat × List Nat)}
    (h : ∀ e ∈ expansions, e.2 ≠ []) (c : Char) : caseImage runs expansions c ≠ [] := by
  unfold caseImage
  split
  · simp
  · split
    · rename_i image hlookup
      obtain ⟨before, behind, heq, -⟩ := List.lookup_eq_some_iff.1 hlookup
      simpa using h (c.toNat, image) (by simp [heq])
    · simp

theorem foldChar_ne_nil (c : Char) : foldChar c ≠ [] := by
  unfold foldChar
  split
  · simp
  · exact caseImage_ne_nil (by decide +kernel) c

/-- Only the empty text is empty without its letter case. -/
theorem fold_eq_nil_iff {t : Text} : fold t = [] ↔ t = [] := by
  cases t with
  | nil => exact iff_of_true rfl rfl
  | cons l rest =>
    refine iff_of_false ?_ (by simp)
    cases l with
    | char c => simp [fold, mapChars, ofChars, foldChar_ne_nil]
    | half n => simp [fold, mapChars]

end Text

theorem Listing.isGiven_congr {a b : Text} (h : sameName a b = true) :
    (Value.text a).isGiven = (Value.text b).isGiven := by
  have hfold : Text.fold a = Text.fold b := by simpa [sameName] using h
  have hnil : a = [] ↔ b = [] := by rw [← Text.fold_eq_nil_iff, hfold, Text.fold_eq_nil_iff]
  rw [Bool.eq_iff_iff, Value.isGiven_text, Value.isGiven_text]
  exact not_congr hnil

namespace Column

/-- One name but for letter case. -/
def sameName (a b : Column) : Bool :=
  match a.name, b.name with
  | .text m, .text n => Listing.sameName m n
  | _, _ => false

/-- The name of a column is shown where its size is refused, and matters for nothing else. -/
theorem toOption_size (a b : Value) (field : SizeField) (v : Value) :
    (size a field v).toOption = (size b field v).toOption := by
  cases v with
  | int n => by_cases hn : 0 ≤ n <;> simp [size, hn, Except.toOption]
  | _ => rfl

theorem isOk_make {a b : Value} (h : a.isGiven = b.isGiven) (type precision scale : Value) :
    (make a type precision scale).isOk = (make b type precision scale).isOk := by
  unfold make
  rw [h]
  cases b.isGiven with
  | false => rfl
  | true =>
    simp only [Bool.not_true, Bool.false_eq_true, if_false, isOk_bind, toOption_size a b]
    rfl

theorem isOk_ofFields {a b : Value} (h : a.isGiven = b.isGiven) (fields : Entries Value) :
    (ofFields a fields).isOk = (ofFields b fields).isOk := by
  unfold ofFields
  dsimp only
  split
  · rfl
  · exact isOk_make h _ _ _

theorem isOk_rename (name : Text) (c : Column) :
    (rename (.text name) c).isOk = ((Value.text name).isGiven || c.name.same (.text [])) := by
  unfold rename
  cases hgiven : (Value.text name).isGiven with
  | true =>
    cases c.name.same (.text name) <;> rfl
  | false =>
    obtain rfl : name = [] := by simpa [Value.isGiven] using hgiven
    cases c.name.same (.text []) <;> rfl

/-- Whether an info describes a column does not depend on the name, unless that is empty. -/
theorem isOk_ofInfo {a b : Text} (h : (Value.text a).isGiven = (Value.text b).isGiven)
    (info : ColumnInfo) : (ofInfo (.text a) info).isOk = (ofInfo (.text b) info).isOk := by
  cases info with
  | column c =>
    show (rename (.text a) c).isOk = (rename (.text b) c).isOk
    rw [isOk_rename, isOk_rename, h]
  | value v =>
    unfold ofInfo
    dsimp only
    split
    · exact isOk_ofFields h _
    · rfl
    · exact isOk_make h _ _ _
    · exact isOk_make h _ _ _

end Column

namespace Writer

/-! ## The columns of names that are texts -/

/-- The column of one name. -/
def describeName (info : NameMap ColumnInfo) (name : Text) : Except Failure Column :=
  match info.get? name with
  | none => .error (Refusal.unsupportedType (.text name) (.text "unknown")).failure
  | some i => (Column.ofInfo (.text name) i).mapError fun f => .refused (.column f)

theorem describeAll_text (names : List Text) (info : NameMap ColumnInfo) :
    describeAll (names.map .text) info = names.mapM (describeName info) := by
  unfold describeAll
  rw [List.mapM_map]
  rfl

theorem name_of_describeName {info : NameMap ColumnInfo} {name : Text} {c : Column}
    (h : describeName info name = .ok c) : c.name = .text name := by
  unfold describeName at h
  split at h
  · cases h
  · exact Column.ofInfo_name (mapError_eq_ok.1 h)

theorem isOk_describeName {a b : Text} (h : Listing.sameName a b = true)
    (info : NameMap ColumnInfo) :
    (describeName info a).isOk = (describeName info b).isOk := by
  unfold describeName
  rw [info.get?_congr h]
  cases info.get? b with
  | none => rfl
  | some i =>
    have hinfo := Column.isOk_ofInfo (Listing.isGiven_congr h) i
    dsimp only
    cases ha : Column.ofInfo (.text a) i <;> cases hb : Column.ofInfo (.text b) i <;>
      rw [ha, hb] at hinfo <;> first | rfl | cases hinfo

/-- Names that repeat are described with those that they repeat, and are left out with them. -/
theorem describeAll_eraseDupsBy (names : List Text) (info : NameMap ColumnInfo) :
    describeAll ((names.eraseDupsBy Listing.sameName).map .text) info =
      (describeAll (names.map .text) info).map (List.eraseDupsBy Column.sameName) := by
  have hsame : ∀ a a' c c', describeName info a = .ok c → describeName info a' = .ok c' →
      Column.sameName c c' = Listing.sameName a a' := by
    intro a a' c c' ha ha'
    rw [Column.sameName, name_of_describeName ha, name_of_describeName ha']
  rw [describeAll_text, describeAll_text]
  exact mapM_eraseDupsBy hsame (fun _ _ h => isOk_describeName h info) names

/-! ## The two ways -/

/-- Columns that were set by hand are those of the map of their entries. -/
theorem perform_describe_given (w : Writer) (pairs : List (Text × ColumnInfo)) :
    ((w.next (.setTypes (pairs.map fun p => (.text p.1, p.2)))).perform describe).1 =
      describeAll ((NameMap.ofList pairs).names.map .text) (NameMap.ofList pairs) := by
  obtain ⟨names, infos, hdescribe⟩ := perform_describe_eq
    (w.next (.setTypes (pairs.map fun p => (.text p.1, p.2))))
  rw [hdescribe, next, perform_setTypes, NameMap.ofEntries_ofPairs]
  rfl

/-- Columns that are learned are those of the names that the source gives. -/
theorem perform_describe_learned {pairs : List (Text × ColumnInfo)} {d : Definition}
    {source : SchemaSource} (hsource : d.source = some source)
    (hgiven : d.inputTable.isGiven = true)
    (hnames : source.columnNames d.inputTable = .ok (pairs.map fun p => .text p.1))
    (hinfos : source.columnInfo d.inputTable = .ok (pairs.map fun p => (.text p.1, p.2)))
    {calls : List Call} (hcalls : ∀ call ∈ calls, call.setsTypes = false) :
    ((after { definition := d } calls).perform describe).1 =
      describeAll ((pairs.map (·.1)).map .text) (NameMap.ofList pairs) := by
  have hschema : d.schema none =
      .ok (pairs.map fun p => .text p.1, NameMap.ofList pairs) := by
    unfold Definition.schema
    simp only [hsource, hgiven, hnames, hinfos, ok_bind, NameMap.ofEntries_ofPairs]
    rfl
  have hunset : Call.typesAfterAll none calls = none := by
    clear hschema
    induction calls with
    | nil => rfl
    | cons call rest ih =>
      obtain ⟨hcall, hrest⟩ := List.forall_mem_cons.1 hcalls
      have hnone : call.typesAfter none = none :=
        typesAfter_of_not_set (w := { definition := d }) none (by simp [hcall])
      rw [Call.typesAfterAll, List.foldl_cons, hnone]
      exact ih hrest
  have hcoherent := after_coherent (coherent_new d) calls
  rw [hunset] at hcoherent
  obtain ⟨w', hrun, -⟩ := describe_follows _ hcoherent
  rw [hrun, List.map_map]
  exact columns_of_schema hschema

/-- Infos that are set by hand and infos that are learned of a source describe the same columns,
or fail alike, but that a name comes once if it is set and as often as the source gives it if it
is learned. Neither what was done with the writers before nor the rest of their definitions
matters. -/
theorem describe_given_eq_learned (pairs : List (Text × ColumnInfo)) {d : Definition}
    {source : SchemaSource} (hsource : d.source = some source)
    (hgiven : d.inputTable.isGiven = true)
    (hnames : source.columnNames d.inputTable = .ok (pairs.map fun p => .text p.1))
    (hinfos : source.columnInfo d.inputTable = .ok (pairs.map fun p => (.text p.1, p.2)))
    (w : Writer) {calls : List Call} (hcalls : ∀ call ∈ calls, call.setsTypes = false) :
    let given := ((w.next (.setTypes (pairs.map fun p => (.text p.1, p.2)))).perform describe).1
    let learned := ((after { definition := d } calls).perform describe).1
    given = learned.map (List.eraseDupsBy Column.sameName) ∧
      (Listing.Distinct pairs → given = learned) := by
  intro given learned
  have hgivenColumns : given = describeAll
      (((pairs.map (·.1)).eraseDupsBy Listing.sameName).map .text) (NameMap.ofList pairs) := by
    rw [← NameMap.names_ofList]
    exact perform_describe_given w pairs
  have hlearnedColumns :
      learned = describeAll ((pairs.map (·.1)).map .text) (NameMap.ofList pairs) :=
    perform_describe_learned hsource hgiven hnames hinfos hcalls
  refine ⟨?_, fun hdistinct => ?_⟩
  · rw [hgivenColumns, hlearnedColumns, describeAll_eraseDupsBy]
  · have hpairwise : (pairs.map (·.1)).Pairwise fun a b => Listing.sameName b a = false := by
      refine List.pairwise_map.2 (hdistinct.imp fun {a b} h => ?_)
      rw [Listing.sameName_comm]
      exact h
    rw [hgivenColumns, hlearnedColumns, eraseDupsBy_of_pairwise hpairwise]

/-- Of two names that differ in letter case only the first stands for a column that is set by
hand, with the type that came with the second. -/
theorem describe_given_letterCase :
    let pairs : List (Text × ColumnInfo) := [("a", .value (.text "INTEGER")),
      ("b", .value (.text "DATE")), ("A", .value (.text "VARCHAR"))]
    let source := SchemaSource.fixed (pairs.map fun p => .text p.1)
      (pairs.map fun p => (.text p.1, p.2))
    let d : Definition := ⟨{}, some source, .text "in", .text "out", false, false,
      ⟨⟨2024, 1, 1⟩, 0, 0, 0, 0, none⟩, ∅⟩
    let w : Writer := { definition := d }
    let given := ((w.next (.setTypes (pairs.map fun p => (.text p.1, p.2)))).perform describe).1
    let learned := ((w.after [.sourcePath]).perform describe).1
    let shown (r : Except Failure (List Column)) : List (String × String) :=
      (r.toOption.getD []).map fun c => (c.name.quoted, c.type.describe)
    shown learned = [("'a'", "VARCHAR"), ("'b'", "DATE"), ("'A'", "VARCHAR")] ∧
      shown given = [("'a'", "VARCHAR"), ("'b'", "DATE")] := by
  intro pairs source d w given learned shown
  have hsource : d.source = some source := rfl
  have hcalls : ∀ call ∈ [Call.sourcePath], call.setsTypes = false := by simp [Call.setsTypes]
  have hgiven := (describe_given_eq_learned pairs hsource rfl rfl rfl w hcalls).1
  refine ⟨by decide +kernel, ?_⟩
  show shown given = _
  rw [show given = learned.map (List.eraseDupsBy Column.sameName) from hgiven]
  decide +kernel

end Writer

end HiveTable
