import HiveTable.Proofs.Codec
import HiveTable.Proofs.Request.Options
import HiveTable.Proofs.Writer.ColumnClause

/-!
# How a table is stored

Which format the statement names depends on the codec of the options alone, and of the codec only
on its class: `storage_of_codec`. Options are refused unless their codec is known, so there is no
spelling of a codec that is accepted and stored as another one. The proof that the rest of the
statement does not depend on the codec is that of `report_withCodec`: the reports of all calls are
the same.
-/

namespace HiveTable

/-- The format for files that are compressed with a codec. -/
def Codec.format (codec : Codec) : String :=
  if codec.className? = lzop.className? then
    "STORED AS INPUTFORMAT 'com.hadoop.mapred.DeprecatedLzoTextInputFormat' OUTPUTFORMAT" ++
      " 'org.apache.hadoop.hive.ql.io.HiveIgnoreKeyTextOutputFormat'"
  else "STORED AS TEXTFILE"

theorem Options.set_codec {o : Options} {s : String} (h : s ≠ "compression_codec") (v : Value) :
    (o.set s v).codec = o.codec := by
  unfold set
  split <;> first | rfl | exact absurd rfl h

namespace Definition
variable {d : Definition}

theorem storage_eq {codec : Codec} (h : Codec.ofValue d.options.codec = .ok codec) :
    d.storage = .ok codec.format := by
  unfold storage Codec.format
  rw [Codec.isIndexed_of_ofValue h, ok_bind]
  by_cases hclass : codec.className? = Codec.lzop.className?
  · simp [hclass]
    rfl
  · simp [hclass]
    rfl

/-- The format stands behind the row format. -/
theorem createTable_format {codec : Codec} (h : Codec.ofValue d.options.codec = .ok codec)
    {columns : List (Value × Text)} {create : Text} (hcreate : d.createTable columns = .ok create) :
    ∃ (row : String) (location : Text), d.rowFormat = .ok row ∧ d.location = .ok location ∧
      create = d.close (d.heading columns ++ row ++ " " ++ codec.format ++ location) := by
  obtain ⟨row, hrow, hcreate⟩ := bind_eq_ok.1 hcreate
  obtain ⟨storage, hstorage, hcreate⟩ := bind_eq_ok.1 hcreate
  obtain ⟨location, hlocation, hcreate⟩ := bind_eq_ok.1 hcreate
  obtain rfl := Except.ok.inj hcreate
  obtain rfl := Except.ok.inj (hstorage.symm.trans (storage_eq h))
  exact ⟨row, location, hrow, hlocation, rfl⟩

/-- The same definition with another codec. -/
def withCodec (d : Definition) (v : Value) : Definition :=
  { d with options := { d.options with codec := v } }

end Definition

/-! ## Codecs of one class -/

namespace Knowledge
variable {k : Knowledge}

def withCodec (k : Knowledge) (v : Value) : Knowledge :=
  { k with definition := k.definition.withCodec v }

/-- Reports depend on the codec by the format alone. -/
theorem report_withCodec {v : Value}
    (h : (k.definition.withCodec v).storage = k.definition.storage) (call : Writer.Call) :
    (k.withCodec v).report call = k.report call := by
  have htype : (k.withCodec v).typeReport = k.typeReport := typeReport_congr rfl rfl fun _ => rfl
  have htyped : (k.withCodec v).typedReport = k.typedReport :=
    typedReport_congr rfl rfl rfl (fun _ => rfl) fun _ => rfl
  have hcreate : (k.withCodec v).createReport = k.createReport := by
    have htable : (k.definition.withCodec v).createTable = k.definition.createTable := by
      funext columns
      unfold Definition.createTable
      rw [h]
      rfl
    show (do liftM ((k.definition.withCodec v).createTable (← (k.withCodec v).typedReport))) = _
    rw [htable, htyped]
    rfl
  have hstatements : (k.withCodec v).statementsReport = k.statementsReport := by
    unfold statementsReport
    rw [hcreate]
    rfl
  have hgenerate : (k.withCodec v).generateReport = k.generateReport := by
    unfold generateReport
    rw [hstatements]
    rfl
  cases call with
  | resolve c =>
    unfold report
    rw [htype]
  | createTable =>
    unfold report
    rw [hcreate]
  | generate =>
    unfold report
    rw [hgenerate]
  | generateFields =>
    unfold report fieldsReport
    rw [hgenerate]
  | _ => rfl

end Knowledge

namespace Writer

def withCodec (w : Writer) (v : Value) : Writer :=
  { w with definition := w.definition.withCodec v }

theorem knowledge_withCodec (w : Writer) (v : Value) (calls : List Call) :
    ((w.withCodec v).after calls).knowledge = (w.after calls).knowledge.withCodec v := by
  obtain ⟨hdefinition, hdefinition', hknown, hchecked⟩ :=
    after_kept w (w.withCodec v) (fun _ => rfl) rfl rfl rfl rfl calls
  unfold knowledge Knowledge.withCodec
  rw [hdefinition, hdefinition', hknown, hchecked]
  rfl

/-- Writers that differ in the spelling of their codec cannot be told apart. -/
theorem outcome_withCodec {w : Writer} {v : Value} {codec codec' : Codec}
    (h : Codec.ofValue w.definition.options.codec = .ok codec) (h' : Codec.ofValue v = .ok codec')
    (hclass : codec'.className? = codec.className?) (calls : List Call) (call : Call) :
    ((w.withCodec v).after calls).outcome call = (w.after calls).outcome call := by
  obtain rfl := Codec.className?_injective hclass
  have hdefinition : (w.after calls).knowledge.definition = w.definition := after_definition w calls
  have hstorage : ((w.after calls).knowledge.definition.withCodec v).storage =
      (w.after calls).knowledge.definition.storage := by
    rw [hdefinition, Definition.storage_eq h,
      Definition.storage_eq (d := w.definition.withCodec v) h']
  rw [outcome_eq_knowledge, outcome_eq_knowledge, knowledge_withCodec,
    Knowledge.report_withCodec hstorage]

/-- A codec that options are accepted with is known, and it is found to have an index just if its
class is that of the codec with one. So is every statement that a writer over these options makes,
alone or for a request, as long as no step assigns the codec: behind the row format it names the
format that the class asks for. A writer in any state whose codec is spelled in another way, or is
another one of the same class, cannot be told apart from it by any call, after any run of calls. -/
theorem storage_of_codec {o options : Options} (hcheck : o.check = .ok options) {t : Text}
    (ht : options.codec = .text t) (hgiven : t ≠ []) :
    ∃ codec, Codec.ofValue (.text t) = .ok codec ∧
      Codec.isIndexed (.text t) = .ok (decide (codec.className? = Codec.lzop.className?)) ∧
      (∀ source inputTable outputTable withComments terminate clock d,
        Definition.make options source inputTable outputTable withComments terminate clock = .ok d →
        ∀ steps : List Step, (∀ step ∈ steps, step.assigns "compression_codec" = false) →
        let w := walk { definition := d } steps
        ∀ create, ((w.outcome .createTable).1 = .ok (.text create) ∨
            ∃ load, (w.outcome .generate).1 = .ok (.statements ⟨create, load⟩)) →
          ∃ (columns : List (Value × Text)) (row : String) (location : Text),
            w.definition.rowFormat = .ok row ∧ w.definition.location = .ok location ∧
            create = w.definition.close (w.definition.heading columns ++ row ++ " " ++
              codec.format ++ location)) ∧
      ∀ (u : Text) codec', Codec.ofValue (.text u) = .ok codec' →
        codec'.className? = codec.className? →
        ∀ w : Writer, w.definition.options.codec = .text t → ∀ calls call,
          ((w.withCodec (.text u)).after calls).outcome call = (w.after calls).outcome call := by
  obtain ⟨rfl, -, -, hcodec⟩ := Options.check_eq_ok.1 hcheck
  obtain ⟨codec, hfound⟩ := hcodec (ht ▸ Value.isGiven_text.2 hgiven)
  rw [ht] at hfound
  refine ⟨codec, hfound, Codec.isIndexed_of_ofValue hfound, ?_, fun u codec' hu hclass w hw calls
    call => outcome_withCodec (by rw [hw]; exact hfound) hu hclass calls call⟩
  intro source inputTable outputTable withComments terminate clock d hmake steps hsteps w create
    hcreate
  have hkept : w.definition.options.codec = .text t := by
    have hwalk : w.definition.options.codec = d.options.codec :=
      walk_option Options.codec (fun _ _ v h => Options.set_codec h v) hsteps _
    rw [hwalk, (Definition.make_eq_ok.1 hmake).2.2, ht]
  obtain ⟨typed, -, -, htable⟩ := createTable_of_outcome hcreate
  exact ⟨_, Definition.createTable_format (by rw [hkept]; exact hfound) htable⟩

/-- The short name of the codec with an index, in upper case and between blanks, and the name of its
class. -/
theorem storage_of_codec_lzop :
    let options : Options := { codec := .text " LZOP " }
    let source := SchemaSource.fixed [.text "id"] [(.text "id", .value (.text "INTEGER"))]
    let clock : Moment := ⟨⟨2024, 1, 1⟩, 0, 0, 0, 0, none⟩
    let w : Writer := { definition :=
      ⟨options, some source, .text "in", .text "out", false, false, clock, ∅⟩ }
    let className : Text := "com.hadoop.compression.lzo.LzopCodec"
    options.check = .ok options ∧
      (∃ (create front : Text), (w.outcome .createTable).1 = .ok (.text create) ∧
        create = front ++ " " ++ Codec.lzop.format) ∧
      (w.withCodec (.text className)).outcome .createTable = w.outcome .createTable := by
  intro options source clock w className
  have hlzop : ∀ t ∈ [Text.ofString " LZOP ", className], Codec.ofValue (.text t) = .ok .lzop := by
    intro t ht
    have hfound : ∀ t ∈ [Text.ofString " LZOP ", className],
        t ≠ [] ∧ Codec.ofText? t = some .lzop := by decide +kernel
    exact Codec.ofValue_eq_ok.2 ⟨t, rfl, hfound t ht⟩
  have hcheck : options.check = .ok options :=
    Options.check_eq_ok.2 ⟨rfl, rfl, nofun, fun _ => ⟨_, hlzop _ (by simp)⟩⟩
  have hmake : Definition.make options (some source) (.text "in") (.text "out") false false clock =
      .ok w.definition := rfl
  obtain ⟨codec, hcodec, -, hformat, hspelled⟩ :=
    storage_of_codec hcheck (t := " LZOP ") rfl (by decide +kernel)
  obtain rfl := Except.ok.inj (hcodec.symm.trans (hlzop _ (by simp)))
  obtain ⟨create, hcreate⟩ : ∃ create, (w.outcome .createTable).1 = .ok (.text create) := ⟨_, rfl⟩
  obtain ⟨columns, row, location, -, hlocation, hstatement⟩ :=
    hformat _ _ _ _ _ _ _ hmake [] (by simp) create (.inl hcreate)
  obtain rfl : ([] : Text) = location := Except.ok.inj hlocation
  exact ⟨hcheck, ⟨create, _, hcreate, hstatement.trans (List.append_nil _)⟩,
    hspelled className .lzop (hlzop _ (by simp)) rfl w rfl [] .createTable⟩

end Writer

end HiveTable
