import HiveTable.Options
import HiveTable.Proofs.Success

/-!
# Which options a mapping is read to

A mapping that is read to options has known names only (`checkNames_eq_ok`), its values are assigned
one after the other (`foldlM_assignEntry_field`), and what is checked of them is `check_eq_ok`. What
is read of a partition are the texts of its fields (`ofValue_partition`), and without them the
mapping is read to the same options without a partition (`ofValue_withoutPartition`).
-/

namespace HiveTable

/-- A field that no entry has. -/
theorem Entries.field?_eq_none_of {α : Type} {entries : Entries α} {name : String}
    (h : ∀ e ∈ entries, e.1.same (.text name) = false) : entries.field? name = none := by
  induction entries with
  | nil => rfl
  | cons e rest ih =>
    obtain ⟨hfirst, hrest⟩ := List.forall_mem_cons.1 h
    rw [field?, get?, hfirst]
    exact ih hrest

theorem Entries.field?_cons {α : Type} (k : Value) (v : α) (rest : Entries α) (name : String) :
    field? ((k, v) :: rest) name = if k.same (.text name) then some v else rest.field? name := rfl

theorem Value.same_text_comm (v : Value) (t : Text) : v.same (.text t) = (Value.text t).same v := by
  cases v <;> simp [same, sameNumber, asInt?, anchor?, Bool.beq_comm]

theorem Value.same_text_ofString (s name : String) :
    Value.same (.text (Text.ofString s)) (.text (Text.ofString name)) = decide (s = name) := by
  have hinjective : Text.ofString s = Text.ofString name ↔ s = name := by
    refine ⟨fun h => ?_, fun h => h ▸ rfl⟩
    have hstring := congrArg Text.string? h
    simpa using hstring
  rw [Value.same, Bool.eq_iff_iff, beq_iff_eq, decide_eq_true_iff, hinjective]

namespace Options

/-! ## The checks -/

theorem checkNames_eq_ok {known : String → Bool} {refusal : List Text → Refusal}
    {names : List Value} : checkNames known refusal names = .ok () ↔
      ∀ v ∈ names, ∃ s, v = .text (Text.ofString s) ∧ known s = true := by
  unfold checkNames
  split
  · rename_i hunknown
    refine iff_of_true rfl fun v hv => ?_
    have hknown := List.filter_eq_nil_iff.1 hunknown v hv
    cases v with
    | text t => simpa [Option.any_eq_true, Text.string?_eq_some_iff] using hknown
    | _ => simp at hknown
  · rename_i unknown hunknown
    refine iff_of_false ?_ fun h => hunknown (List.filter_eq_nil_iff.2 fun v hv => ?_)
    · split <;> rintro ⟨⟩
    · obtain ⟨s, rfl, hs⟩ := h v hv
      simp [hs]

theorem check_eq_ok {o options : Options} : o.check = .ok options ↔
    options = o ∧ o.partitionKey.isNull = o.partitionValue.isNull ∧
      (o.partitionKey.isNull = false → o.partitionKey.display.isBlankText = false) ∧
      (o.codec.isGiven = true → ∃ c, Codec.ofValue o.codec = .ok c) := by
  unfold check
  dsimp only
  cases hhalf : o.partitionKey.isNull != o.partitionValue.isNull with
  | true =>
    refine iff_of_false (by rintro ⟨⟩) fun h => ?_
    simp [h.2.1] at hhalf
  | false =>
    have hsame : o.partitionKey.isNull = o.partitionValue.isNull := by simpa using hhalf
    cases hblank : !o.partitionKey.isNull && o.partitionKey.display.isBlankText with
    | true =>
      refine iff_of_false (by rintro ⟨⟩) fun h => ?_
      rw [Bool.and_eq_true, Bool.not_eq_true'] at hblank
      exact Bool.false_ne_true ((h.2.2.1 hblank.1).symm.trans hblank.2)
    | false =>
      have hkey : o.partitionKey.isNull = false → o.partitionKey.display.isBlankText = false := by
        intro hnull
        simpa [hnull] using hblank
      have hok : (.ok o : Except Failure Options) = .ok options ↔ options = o :=
        ⟨fun h => (Except.ok.inj h).symm, fun h => congrArg Except.ok h.symm⟩
      cases hgiven : o.codec.isGiven with
      | false =>
        refine hok.trans (and_iff_left ⟨hsame, hkey, ?_⟩).symm
        rintro ⟨⟩
      | true =>
        cases hcodec : Codec.ofValue o.codec with
        | error e =>
          refine iff_of_false (by rintro ⟨⟩) fun h => ?_
          obtain ⟨c, ⟨⟩⟩ := h.2.2.2 rfl
        | ok c => exact hok.trans (and_iff_left ⟨hsame, hkey, fun _ => ⟨c, rfl⟩⟩).symm

/-! ## Assigning the values -/

/-- The value of one entry is assigned. -/
def assignEntry (o : Options) (e : Value × Value) : Except Failure Options :=
  match e.1 with
  | .text name =>
    match name.string?.filter isOption with
    | some name => .ok (o.set name e.2)
    | none => .error .wrongKind
  | _ => .error .wrongKind

theorem assign_eq (entries : Entries Value) : assign entries = entries.foldlM assignEntry {} := rfl

theorem assignEntry_eq_ok {o o' : Options} {e : Value × Value} :
    assignEntry o e = .ok o' ↔
      ∃ s, e.1 = .text (Text.ofString s) ∧ isOption s = true ∧ o' = o.set s e.2 := by
  obtain ⟨k, v⟩ := e
  unfold assignEntry
  cases k with
  | text t =>
    dsimp only
    constructor
    · intro h
      split at h
      · rename_i s hs
        obtain ⟨hstring, hoption⟩ := Option.filter_eq_some_iff.1 hs
        obtain rfl := Text.string?_eq_some_iff.1 hstring
        exact ⟨s, rfl, hoption, (Except.ok.inj h).symm⟩
      · cases h
    · rintro ⟨s, hs, hoption, rfl⟩
      obtain rfl := Value.text.inj hs
      simp only [Text.string?_ofString, Option.filter, hoption, if_true]
  | _ =>
    refine iff_of_false (by rintro ⟨⟩) ?_
    rintro ⟨s, ⟨⟩, -⟩

/-- An option has the value of its entry, or else the one that it had before. -/
theorem foldlM_assignEntry_field (field : Options → Value) {name : String}
    (hset : ∀ o v, field (set o name v) = v)
    (hother : ∀ o s v, s ≠ name → field (set o s v) = field o) {entries : Entries Value}
    (hdistinct : entries.Pairwise fun a b => a.1.same b.1 = false) {o o' : Options}
    (h : entries.foldlM assignEntry o = .ok o') :
    field o' = (entries.field? name).getD (field o) := by
  induction entries generalizing o with
  | nil =>
    obtain rfl := Except.ok.inj h
    rfl
  | cons e rest ih =>
    rw [List.foldlM_cons] at h
    obtain ⟨next, hnext, hrest⟩ := bind_eq_ok.1 h
    obtain ⟨hfirst, hothers⟩ := List.pairwise_cons.1 hdistinct
    obtain ⟨k, v⟩ := e
    obtain ⟨s, hk, -, rfl⟩ := assignEntry_eq_ok.1 hnext
    obtain rfl : k = _ := hk
    rw [ih hothers hrest, Entries.field?_cons, Value.same_text_ofString]
    by_cases hs : s = name
    · subst hs
      have hnone : Entries.field? rest s = none := Entries.field?_eq_none_of fun e he => by
        rw [Value.same_text_comm]
        exact hfirst e he
      rw [hnone, hset]
      simp
    · simp [hs, hother _ _ _ hs]

/-- The same options without a partition. -/
def unpartitioned (o : Options) : Options :=
  { o with partitionKey := .null, partitionValue := .null }

def namesPartition (name : Value) : Bool :=
  name.same (.text "partition_key") || name.same (.text "partition_value")

/-- The entries but those of the partition. -/
def withoutPartition (entries : Entries Value) : Entries Value :=
  entries.filter fun e => !namesPartition e.1

theorem namesPartition_ofString (s : String) :
    namesPartition (.text (Text.ofString s)) =
      decide (s = "partition_key" ∨ s = "partition_value") := by
  rw [namesPartition, Value.same_text_ofString, Value.same_text_ofString, Bool.decide_or]

theorem unpartitioned_set (o : Options) (s : String) (v : Value) :
    (o.set s v).unpartitioned =
      if s = "partition_key" ∨ s = "partition_value" then o.unpartitioned
      else o.unpartitioned.set s v := by
  unfold set
  split <;> first | rfl | exact (ite_self _).symm

/-- The other entries are assigned as before. -/
theorem foldlM_withoutPartition {entries : Entries Value} {o o' : Options}
    (h : entries.foldlM assignEntry o = .ok o') :
    (withoutPartition entries).foldlM assignEntry o.unpartitioned = .ok o'.unpartitioned := by
  induction entries generalizing o with
  | nil =>
    obtain rfl := Except.ok.inj h
    rfl
  | cons e rest ih =>
    rw [List.foldlM_cons] at h
    obtain ⟨next, hnext, hrest⟩ := bind_eq_ok.1 h
    obtain ⟨k, v⟩ := e
    obtain ⟨s, hk, hoption, rfl⟩ := assignEntry_eq_ok.1 hnext
    obtain rfl : k = _ := hk
    have hnext' := ih hrest
    rw [unpartitioned_set] at hnext'
    unfold withoutPartition at hnext' ⊢
    have hname := namesPartition_ofString s
    by_cases hs : s = "partition_key" ∨ s = "partition_value"
    · rw [decide_eq_true hs] at hname
      rw [if_pos hs] at hnext'
      rw [List.filter_cons_of_neg (by simp [hname])]
      exact hnext'
    · rw [decide_eq_false hs] at hname
      rw [if_neg hs] at hnext'
      rw [List.filter_cons_of_pos (by simp [hname]), List.foldlM_cons,
        assignEntry_eq_ok.2 ⟨s, rfl, hoption, rfl⟩]
      exact hnext'

/-! ## Mappings -/

/-- The value of an option in a mapping. -/
def given (entries : Entries Value) (name : String) : Value := (entries.field? name).getD .null

theorem assign_partition {entries : Entries Value}
    (hdistinct : entries.Pairwise fun a b => a.1.same b.1 = false) {o : Options}
    (h : assign entries = .ok o) :
    o.partitionKey = given entries "partition_key" ∧
      o.partitionValue = given entries "partition_value" := by
  rw [assign_eq] at h
  refine ⟨foldlM_assignEntry_field partitionKey (fun _ _ => rfl) ?_ hdistinct h,
    foldlM_assignEntry_field partitionValue (fun _ _ => rfl) ?_ hdistinct h⟩
  all_goals
    intro o s v hs
    unfold set
    split <;> first | rfl | exact absurd rfl hs

theorem ofValue_mapping (entries : Entries Value) : ofValue (.mapping entries) = (do
    checkNames isOption .unknownOptions (entries.map (·.1))
    let o ← assign entries
    let partitionKey ← textual o.partitionKey
    let partitionValue ← textual o.partitionValue
    { o with partitionKey, partitionValue }.check) := by
  have hentries : entriesOf (.mapping entries) = .ok entries := by
    cases entries <;> rfl
  unfold ofValue
  rw [hentries]
  rfl

theorem textual_of_given {v : Value} (hnull : v.isNull = false) (hlong : v.hasLongNumber = false) :
    textual v = .ok (.text v.display) := by
  unfold textual
  split
  · cases hnull
  · rw [hlong]
    rfl

/-- A key or a value becomes its text. -/
theorem textual_eq_ok {v v' : Value} (h : textual v = .ok v') :
    v'.isNull = v.isNull ∧ (v.isNull = false → v' = .text v.display) := by
  cases v with
  | null =>
    obtain rfl := Except.ok.inj h
    exact ⟨rfl, by rintro ⟨⟩⟩
  | _ =>
    unfold textual at h
    dsimp only at h
    split at h
    · cases h
    · obtain rfl := Except.ok.inj h
      exact ⟨rfl, fun _ => rfl⟩

/-- What is read of a mapping with a partition: the texts of both fields, and the key is not
blank. -/
theorem ofValue_partition {entries : Entries Value}
    (hdistinct : entries.Pairwise fun a b => a.1.same b.1 = false) {options : Options}
    (h : ofValue (.mapping entries) = .ok options)
    (hkey : (given entries "partition_key").isNull = false) :
    options.partitionKey = .text (given entries "partition_key").display ∧
      (given entries "partition_key").display.isBlankText = false ∧
      ((given entries "partition_value").isNull = false →
        options.partitionValue = .text (given entries "partition_value").display) := by
  rw [ofValue_mapping] at h
  obtain ⟨_, -, h⟩ := bind_eq_ok.1 h
  obtain ⟨o, ho, h⟩ := bind_eq_ok.1 h
  obtain ⟨key, htext, h⟩ := bind_eq_ok.1 h
  obtain ⟨value, htext', h⟩ := bind_eq_ok.1 h
  obtain ⟨rfl, -, hblank, -⟩ := check_eq_ok.1 h
  obtain ⟨hfield, hfield'⟩ := assign_partition hdistinct ho
  rw [hfield] at htext
  rw [hfield'] at htext'
  obtain rfl := (textual_eq_ok htext).2 hkey
  exact ⟨rfl, hblank rfl, (textual_eq_ok htext').2⟩

/-- Whatever options are read of, the key of their partition is a text that is not blank. -/
theorem ofValue_partitionKey {v : Value} {options : Options} (h : ofValue v = .ok options) :
    options.partitionKey = .null ∨
      ∃ key, options.partitionKey = .text key ∧ key.isBlankText = false := by
  obtain ⟨entries, -, h⟩ := bind_eq_ok.1 h
  obtain ⟨_, -, h⟩ := bind_eq_ok.1 h
  obtain ⟨o, -, h⟩ := bind_eq_ok.1 h
  obtain ⟨key, htext, h⟩ := bind_eq_ok.1 h
  obtain ⟨value, -, h⟩ := bind_eq_ok.1 h
  obtain ⟨rfl, -, hblank, -⟩ := check_eq_ok.1 h
  obtain ⟨hnull, hdisplay⟩ := textual_eq_ok htext
  cases hkey : o.partitionKey.isNull with
  | true =>
    rw [hkey] at hnull
    cases key with
    | null => exact .inl rfl
    | _ => cases hnull
  | false =>
    obtain rfl := hdisplay hkey
    exact .inr ⟨_, rfl, hblank rfl⟩

/-- A mapping that is read is read without its partition as well. -/
theorem ofValue_withoutPartition {entries : Entries Value} {options : Options}
    (h : ofValue (.mapping entries) = .ok options) :
    ofValue (.mapping (withoutPartition entries)) = .ok options.unpartitioned := by
  rw [ofValue_mapping] at h ⊢
  obtain ⟨_, hnames, h⟩ := bind_eq_ok.1 h
  obtain ⟨o, ho, h⟩ := bind_eq_ok.1 h
  obtain ⟨key, -, h⟩ := bind_eq_ok.1 h
  obtain ⟨value, -, h⟩ := bind_eq_ok.1 h
  obtain ⟨rfl, -, -, hcodec⟩ := check_eq_ok.1 h
  have hnames' : checkNames isOption .unknownOptions ((withoutPartition entries).map (·.1)) =
      .ok () := by
    refine checkNames_eq_ok.2 fun v hv => checkNames_eq_ok.1 hnames v ?_
    exact List.map_subset _ (List.filter_subset_self entries) hv
  have ho' : assign (withoutPartition entries) = .ok o.unpartitioned :=
    foldlM_withoutPartition (o := {}) ho
  rw [hnames', ok_bind, ho']
  refine (check_eq_ok (o := o.unpartitioned)).2 ⟨rfl, rfl, ?_, hcodec⟩
  rintro ⟨⟩

end Options

end HiveTable
