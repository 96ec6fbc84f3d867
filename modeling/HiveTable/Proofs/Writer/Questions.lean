import HiveTable.Proofs.Writer.Invariant
import HiveTable.Proofs.Writer.Result

/-!
# How often the source is asked

Work that needs the columns asks the source for names and for infos. It does so equally often, at
most once in a step of a walk, and never once the writer is `Settled`: its columns are kept, or
types are set by hand. `Spends` says how often a piece of work asked and what it leaves; work that
follows other work spends no more than the first of both that asked (`Spends.trans`), so that each
action is `Thrifty`, and the actions that need the columns leave the writer settled when they end
well (`Obtaining`). `walk_asked` gathers this for whole walks.
-/

namespace HiveTable

/-- A source that always answers. -/
def SchemaSource.Answers (source : SchemaSource) : Prop :=
  ∀ table, (source.columnNames table).isOk = true ∧ (source.columnInfo table).isOk = true

namespace Writer
variable {α β : Type}

/-- How often the source was asked, for names and for infos. -/
def asked (w : Writer) : Nat × Nat := (w.nameCalls, w.infoCalls)

/-- Asked once more for both. -/
def askedOnce (w : Writer) : Nat × Nat := (w.nameCalls + 1, w.infoCalls + 1)

/-- There is nothing to ask the source for. -/
def Settled (w : Writer) : Prop := w.columns.isSome = true ∨ w.types.isSome = true

/-- A source that may still be asked answers, and the overrides were only checked once the writer
was settled. -/
structure Sound (w : Writer) : Prop where
  answers : ¬ w.Settled → ∀ source, w.definition.source = some source → source.Answers
  validated : w.validated = true → w.Settled

/-- A change that is not about columns. -/
structure Aside (w w' : Writer) : Prop where
  definition : w'.definition = w.definition
  types : w'.types = w.types
  columns : w'.columns = w.columns
  validated : w'.validated = w.validated
  asked : w'.asked = w.asked

/-- From one writer to the next the source is asked at most once, for both, and not at all if the
writer is settled. The next writer is settled if the work ended well although it had to ask, or if
the answers were enough to describe the columns. -/
structure Spends (w : Writer) (result : Except Failure α) (w' : Writer) : Prop where
  sound : w'.Sound
  definition : w'.definition = w.definition
  settled : w.Settled → w'.Settled ∧ w'.asked = w.asked
  once : w'.asked = w.asked ∨
    w'.asked = w.askedOnce ∧ (result.isOk = true ∨ w.known.isOk = true → w'.Settled)

/-! ## Work after work -/

theorem Settled.of_aside {w w' : Writer} (h : w.Settled) (haside : Aside w w') : w'.Settled := by
  unfold Settled
  rw [haside.columns, haside.types]
  exact h

/-- A settled writer stays sound whatever becomes of its source. -/
theorem Settled.sound {w : Writer} (h : w.Settled) : w.Sound :=
  ⟨fun hunsettled => absurd h hunsettled, fun _ => h⟩

theorem Sound.of_aside {w w' : Writer} (h : w.Sound) (haside : Aside w w') : w'.Sound where
  answers hunsettled := by
    rw [haside.definition]
    exact h.answers fun hsettled => hunsettled (hsettled.of_aside haside)
  validated := by
    rw [haside.validated]
    exact fun hvalidated => (h.validated hvalidated).of_aside haside

/-- Before anything is settled the columns are those of the definition. -/
theorem known_congr {w w' : Writer} (hdefinition : w'.definition = w.definition)
    (h : ¬ w.Settled) (h' : ¬ w'.Settled) : w'.known = w.known := by
  have hunsettled : ∀ w : Writer, ¬ w.Settled → w.known = w.definition.columns none := by
    intro w hw
    unfold Settled at hw
    rw [not_or, Option.not_isSome_iff_eq_none, Option.not_isSome_iff_eq_none] at hw
    rw [known, hw.1, hw.2]
  rw [hunsettled w h, hunsettled w' h', hdefinition]

namespace Spends

theorem of_aside {w w' : Writer} (hw : w.Sound) (haside : Aside w w')
    (result : Except Failure α) : Spends w result w' where
  sound := hw.of_aside haside
  definition := haside.definition
  settled h := ⟨h.of_aside haside, haside.asked⟩
  once := .inl haside.asked

theorem refl {w : Writer} (hw : w.Sound) (result : Except Failure α) : Spends w result w :=
  of_aside hw ⟨rfl, rfl, rfl, rfl, rfl⟩ result

/-- Only work that ended well goes on. If it asked, the writer is settled, and the rest does not
ask again. -/
theorem trans {w w₁ w₂ : Writer} {x : α} {result : Except Failure β}
    (h₁ : Spends w (.ok x) w₁) (h₂ : Spends w₁ result w₂) : Spends w result w₂ where
  sound := h₂.sound
  definition := h₂.definition.trans h₁.definition
  settled h := by
    obtain ⟨hsettled₁, hasked₁⟩ := h₁.settled h
    obtain ⟨hsettled₂, hasked₂⟩ := h₂.settled hsettled₁
    exact ⟨hsettled₂, hasked₂.trans hasked₁⟩
  once := by
    rcases h₁.once with hasked₁ | ⟨hasked₁, hsettled₁⟩
    · rcases h₂.once with hasked₂ | ⟨hasked₂, hsettled₂⟩
      · exact .inl (hasked₂.trans hasked₁)
      · have honce : w₁.askedOnce = w.askedOnce := by
          obtain ⟨hnames, hinfos⟩ := Prod.mk.inj hasked₁
          rw [askedOnce, askedOnce, hnames, hinfos]
        refine .inr ⟨hasked₂.trans honce, fun h => ?_⟩
        by_cases hw₁ : w₁.Settled
        · exact (h₂.settled hw₁).1
        · have hw : ¬ w.Settled := fun hw => hw₁ (h₁.settled hw).1
          rw [← known_congr h₁.definition hw hw₁] at h
          exact hsettled₂ h
    · obtain ⟨hw₂, hasked₂⟩ := h₂.settled (hsettled₁ (.inl rfl))
      exact .inr ⟨hasked₂.trans hasked₁, fun _ => hw₂⟩

/-- What follows a failure changes nothing about columns. -/
theorem aside_of_error {w w₁ w₂ : Writer} {e : Failure} {result : Except Failure β}
    (h : Spends w (.error e : Except Failure α) w₁) (haside : Aside w₁ w₂)
    (hfailed : result.isOk = false) : Spends w result w₂ where
  sound := h.sound.of_aside haside
  definition := haside.definition.trans h.definition
  settled hw := ⟨(h.settled hw).1.of_aside haside, haside.asked.trans (h.settled hw).2⟩
  once := by
    rcases h.once with hasked | ⟨hasked, hsettled⟩
    · exact .inl (haside.asked.trans hasked)
    · refine .inr ⟨haside.asked.trans hasked, fun hok => ?_⟩
      rw [hfailed] at hok
      exact (hsettled (hok.imp_left fun h => h)).of_aside haside

end Spends

/-- On every sound writer the action spends little. -/
def Thrifty (a : Action α) : Prop :=
  ∀ w : Writer, w.Sound → Spends w (w.perform a).1 (w.perform a).2

/-- A thrifty action that cannot end well without the columns. -/
structure Obtaining (a : Action α) : Prop where
  thrifty : Thrifty a
  settled : ∀ w : Writer, w.Sound → (w.perform a).1.isOk = true → (w.perform a).2.Settled

namespace Thrifty

protected theorem pure (x : α) : Thrifty (pure x) := fun _ hw => .refl hw _

theorem lift (r : Except Failure α) : Thrifty (liftM r) := fun _ hw => .refl hw _

protected theorem bind {a : Action α} {f : α → Action β} (ha : Thrifty a)
    (hf : ∀ x, Thrifty (f x)) : Thrifty (a >>= f) := by
  intro w hw
  have hfirst := ha w hw
  rw [perform_bind]
  rcases hrun : w.perform a with ⟨e | x, w₁⟩ <;> rw [hrun] at hfirst
  · exact .aside_of_error hfirst ⟨rfl, rfl, rfl, rfl, rfl⟩ rfl
  · exact .trans hfirst (hf x w₁ hfirst.sound)

theorem mapM {f : α → Action β} (h : ∀ x, Thrifty (f x)) (l : List α) : Thrifty (l.mapM f) := by
  induction l with
  | nil => exact .pure []
  | cons x rest ih =>
    rw [List.mapM_cons]
    exact .bind (h x) fun y => .bind ih fun ys => .pure (y :: ys)

theorem get_bind {f : Writer → Action α} (h : ∀ w, Thrifty (f w)) : Thrifty (get >>= f) := by
  intro w hw
  rw [perform_get_bind]
  exact h w w hw

protected theorem modify {f : Writer → Writer} (h : ∀ w, Aside w (f w)) :
    Thrifty (modify f) := fun w hw => .of_aside hw (h w) _

end Thrifty

namespace Obtaining

/-- The columns are obtained in the first part. -/
theorem bind_left {a : Action α} {f : α → Action β} (ha : Obtaining a)
    (hf : ∀ x, Thrifty (f x)) : Obtaining (a >>= f) where
  thrifty := .bind ha.thrifty hf
  settled w hw hok := by
    have hfirst := ha.thrifty w hw
    have hsettled := ha.settled w hw
    rw [perform_bind] at hok ⊢
    rcases hrun : w.perform a with ⟨e | x, w₁⟩ <;> rw [hrun] at hok hfirst hsettled
    · cases hok
    · exact ((hf x w₁ hfirst.sound).settled (hsettled rfl)).1

/-- The columns are obtained in the rest. -/
theorem bind_right {a : Action α} {f : α → Action β} (ha : Thrifty a)
    (hf : ∀ x, Obtaining (f x)) : Obtaining (a >>= f) where
  thrifty := .bind ha fun x => (hf x).thrifty
  settled w hw hok := by
    have hfirst := ha w hw
    rw [perform_bind] at hok ⊢
    rcases hrun : w.perform a with ⟨e | x, w₁⟩ <;> rw [hrun] at hok hfirst
    · cases hok
    · exact (hf x).settled w₁ hfirst.sound hok

theorem get_bind {f : Writer → Action α} (h : ∀ w, Obtaining (f w)) : Obtaining (get >>= f) where
  thrifty := .get_bind fun w => (h w).thrifty
  settled w hw hok := by
    rw [perform_get_bind] at hok ⊢
    exact (h w).settled w hw hok

/-- What is done about a failure fails too, and is not about columns. -/
protected theorem tryCatch {a : Action α} {handle : Failure → Action α} (ha : Obtaining a)
    (hhandle : ∀ (e : Failure) (w : Writer),
      (w.perform (handle e)).1.isOk = false ∧ Aside w (w.perform (handle e)).2) :
    Obtaining (tryCatch a handle) where
  thrifty w hw := by
    have hfirst := ha.thrifty w hw
    rw [perform_tryCatch]
    rcases hrun : w.perform a with ⟨e | x, w₁⟩ <;> rw [hrun] at hfirst
    · exact .aside_of_error hfirst (hhandle e w₁).2 (hhandle e w₁).1
    · exact hfirst
  settled w hw hok := by
    have hsettled := ha.settled w hw
    rw [perform_tryCatch] at hok ⊢
    rcases hrun : w.perform a with ⟨e | x, w₁⟩ <;> rw [hrun] at hok hsettled
    · rw [(hhandle e w₁).1] at hok
      cases hok
    · exact hsettled hok

end Obtaining

/-! ## The actions -/

/-- A source that answers is asked for both. -/
theorem asked_learn (w : Writer)
    (hanswers : ∀ source, w.definition.source = some source → source.Answers) :
    (w.perform learn).2.asked = w.asked ∨ (w.perform learn).2.asked = w.askedOnce := by
  unfold learn
  rw [perform_get_bind]
  dsimp only
  cases hsource : w.definition.source with
  | none => exact .inl rfl
  | some source =>
    cases w.definition.inputTable.isGiven with
    | false => exact .inl rfl
    | true =>
      obtain ⟨hnames, hinfos⟩ := hanswers source hsource w.definition.inputTable
      simp only [Bool.not_true, Bool.false_eq_true, if_false]
      rw [perform_modify_bind, perform_lift_bind]
      cases hcolumns : source.columnNames w.definition.inputTable with
      | error e =>
        rw [hcolumns] at hnames
        cases hnames
      | ok names =>
        dsimp only
        rw [perform_modify_bind, perform_lift_bind]
        cases hinfo : source.columnInfo w.definition.inputTable with
        | error e =>
          rw [hinfo] at hinfos
          cases hinfos
        | ok entries =>
          dsimp only
          rw [perform_lift_bind]
          cases NameMap.ofEntries entries <;> exact .inr rfl

theorem asked_describe (w : Writer) (hw : w.Sound) :
    (w.perform describe).2.asked = w.asked ∨
      ¬ w.Settled ∧ (w.perform describe).2.asked = w.askedOnce := by
  unfold describe
  rw [perform_get_bind]
  cases hcolumns : w.columns with
  | some columns => exact .inl rfl
  | none =>
    dsimp only
    rw [perform_get_bind]
    cases htypes : w.types with
    | some types =>
      refine .inl ?_
      exact congrArg (fun r => asked r.2) (perform_describeAll w (types.names.map .text) types)
    | none =>
      have hunsettled : ¬ w.Settled := by simp [Settled, hcolumns, htypes]
      have hlearn := asked_learn w (hw.answers hunsettled)
      dsimp only
      rw [perform_bind]
      rcases hrun : w.perform learn with ⟨e | schema, w₁⟩ <;> rw [hrun] at hlearn
      · exact hlearn.imp_right fun h => ⟨hunsettled, h⟩
      · dsimp only
        rw [perform_describeAll]
        exact hlearn.imp_right fun h => ⟨hunsettled, h⟩

theorem describe_obtaining : Obtaining describe := by
  have hleft : ∀ w : Writer, (w.perform describe).1 = w.known ∧
      (w.perform describe).2.definition = w.definition ∧
      (w.perform describe).2.types = w.types ∧
      (w.perform describe).2.columns = w.known.toOption.or w.columns ∧
      (w.perform describe).2.validated = w.validated := by
    intro w
    obtain ⟨names, infos, hdescribe⟩ := perform_describe_eq w
    rw [hdescribe]
    exact ⟨rfl, rfl, rfl, rfl, rfl⟩
  have hsettled : ∀ w : Writer, w.Settled ∨ w.known.isOk = true →
      (w.perform describe).2.Settled := by
    intro w h
    obtain ⟨-, -, htypes, hcolumns, -⟩ := hleft w
    unfold Settled at h ⊢
    rw [htypes, hcolumns]
    cases hknown : w.known with
    | ok columns => exact .inl rfl
    | error e =>
      rw [hknown] at h
      exact h.resolve_right Bool.false_ne_true
  refine ⟨fun w hw => ?_, fun w hw hok => ?_⟩
  · obtain ⟨hresult, hdefinition, -, -, hvalidated⟩ := hleft w
    refine ⟨⟨fun hunsettled => ?_, ?_⟩, hdefinition, fun h => ⟨hsettled w (.inl h), ?_⟩, ?_⟩
    · rw [hdefinition]
      exact hw.answers fun h => hunsettled (hsettled w (.inl h))
    · rw [hvalidated]
      exact fun h => hsettled w (.inl (hw.validated h))
    · exact (asked_describe w hw).resolve_right fun hasked => hasked.1 h
    · rw [hresult, or_self]
      exact (asked_describe w hw).imp_right fun hasked => ⟨hasked.2, fun h => hsettled w (.inr h)⟩
  · rw [(hleft w).1] at hok
    exact hsettled w (.inr hok)

theorem validate_obtaining : Obtaining validate := by
  -- The mark is set only on a writer that has its columns.
  have hperform : ∀ w : Writer, w.Sound → Spends w (w.perform validate).1 (w.perform validate).2 ∧
      ((w.perform validate).1.isOk = true → (w.perform validate).2.Settled) := by
    intro w hw
    unfold validate
    rw [perform_get_bind]
    cases hvalidated : w.validated with
    | true => exact ⟨.refl hw _, fun _ => hw.validated hvalidated⟩
    | false =>
      have hdescribe := describe_obtaining.thrifty w hw
      have hsettled := describe_obtaining.settled w hw
      simp only [Bool.false_eq_true, if_false]
      rw [perform_bind]
      rcases hrun : w.perform describe with ⟨e | columns, w₁⟩ <;> rw [hrun] at hdescribe hsettled
      · exact ⟨.aside_of_error hdescribe ⟨rfl, rfl, rfl, rfl, rfl⟩ rfl, by rintro ⟨⟩⟩
      · have hw₁ : w₁.Settled := hsettled rfl
        dsimp only
        rw [perform_get_bind, perform_lift_bind]
        cases checkOverrides w₁.definition.overrides (columns.map (·.name)) with
        | error e => exact ⟨.trans hdescribe (.refl hdescribe.sound _), by rintro ⟨⟩⟩
        | ok _ =>
          have hmarked : Settled { w₁ with validated := true } := hw₁
          exact ⟨.trans hdescribe ⟨hmarked.sound, rfl, fun _ => ⟨hmarked, rfl⟩, .inl rfl⟩,
            fun _ => hmarked⟩
  exact ⟨fun w hw => (hperform w hw).1, fun w hw => (hperform w hw).2⟩

theorem aside_emit (e : Event) (w : Writer) : Aside w (w.perform (emit e)).2 := by
  rw [perform_emit]
  cases e.text (fun _ => "") .zero <;> exact ⟨rfl, rfl, rfl, rfl, rfl⟩

theorem emit_thrifty (e : Event) : Thrifty (emit e) :=
  fun w hw => .of_aside hw (aside_emit e w) _

theorem resolve_obtaining (c : Column) : Obtaining (resolve c) := by
  refine .bind_left validate_obtaining fun _ => .get_bind fun w => .bind (.lift _) fun type => ?_
  dsimp only
  split
  · exact .bind (emit_thrifty _) fun _ => .pure type
  · exact .pure type

theorem createTable_obtaining : Obtaining createTable := by
  refine .bind_left describe_obtaining fun columns => .bind validate_obtaining.thrifty fun _ => ?_
  refine .get_bind fun w => .bind (.lift _) fun _ => ?_
  refine .bind (.mapM (fun c => .bind (resolve_obtaining c).thrifty fun type => .pure _) columns)
    fun typed => ?_
  exact .get_bind fun w => .lift _

theorem statements_obtaining : Obtaining statements :=
  .bind_left createTable_obtaining fun _ => .bind (.get_bind fun _ => .lift _) fun _ => .pure _

/-- A failure is reported if it is a refusal, and goes on. -/
theorem aside_failed (request : Nat) (table : Value) (f : Failure) (w : Writer) :
    let a : Action α := do
      match f with
      | .refused r => emit (.failed request table r)
      | _ => pure ()
      throw f
    (w.perform a).1.isOk = false ∧ Aside w (w.perform a).2 := by
  cases f with
  | refused r =>
    have haside := aside_emit (.failed request table r) w
    dsimp only
    rw [perform_bind]
    rcases hrun : w.perform (emit (.failed request table r)) with ⟨e | _, w₁⟩ <;>
      rw [hrun] at haside
    · exact ⟨rfl, haside⟩
    · exact ⟨rfl, haside⟩
  | _ => exact ⟨rfl, rfl, rfl, rfl, rfl, rfl⟩

theorem generate_obtaining : Obtaining generate := by
  refine .get_bind fun w => .bind_right (.modify fun w => ⟨rfl, rfl, rfl, rfl, rfl⟩) fun _ => ?_
  refine .get_bind fun w => .bind_right (emit_thrifty _) fun _ => ?_
  refine .bind_left (.tryCatch statements_obtaining fun f w => aside_failed _ _ f w) fun found => ?_
  exact .bind describe_obtaining.thrifty fun columns => .bind (emit_thrifty _) fun _ => .pure found

/-! ## Steps -/

/-- The calls that have the columns described. -/
def Call.needsColumns : Call → Bool
  | .setTypes _ | .loadData | .sourcePath => false
  | _ => true

def Step.needsColumns : Step → Bool
  | .call c => c.needsColumns
  | .setOption .. | .setSource _ => false

/-- A source that is put in place answers. -/
def Step.Answers : Step → Prop
  | .setSource source => source.Answers
  | _ => True

theorem call_obtaining {c : Call} (h : c.needsColumns = true) : Obtaining c.action := by
  cases c with
  | describe => exact .bind_left describe_obtaining fun _ => .pure _
  | validate => exact .bind_left validate_obtaining fun _ => .pure _
  | resolve c => exact .bind_left (resolve_obtaining c) fun _ => .pure _
  | createTable => exact .bind_left createTable_obtaining fun _ => .pure _
  | generate => exact .bind_left generate_obtaining fun _ => .pure _
  | generateFields =>
    exact .bind_left (.bind_left generate_obtaining fun _ => .pure _) fun _ => .pure _
  | _ => cases h

theorem step_obtaining {step : Step} (h : step.needsColumns = true) : Obtaining step.action := by
  cases step with
  | call c => exact call_obtaining h
  | _ => cases h

/-- A call that needs no columns changes nothing, unless it sets types. -/
theorem call_of_not_needsColumns {c : Call} (h : c.needsColumns = false) (w : Writer) :
    (w.perform c.action).2 = w ∨ ∃ types, (w.perform c.action).2 =
      { w with types := some types, columns := none, validated := false } := by
  cases c with
  | setTypes entries =>
    rw [perform_setTypes]
    cases NameMap.ofEntries entries with
    | error e => exact .inl rfl
    | ok types => exact .inr ⟨types, rfl⟩
  | loadData =>
    have hload : w.perform loadData = (w.definition.loadData, w) := rfl
    rw [Call.action, perform_bind, hload]
    cases w.definition.loadData <;> exact .inl rfl
  | sourcePath =>
    have hpath : w.perform sourcePath = (w.definition.sourcePath, w) := rfl
    rw [Call.action, perform_bind, hpath]
    cases w.definition.sourcePath <;> exact .inl rfl
  | _ => cases h

theorem asked_of_not_needsColumns {step : Step} (h : step.needsColumns = false) (w : Writer) :
    (w.walk [step]).asked = w.asked := by
  cases step with
  | setOption name v => cases name <;> rfl
  | setSource source => rfl
  | call c =>
    show (w.perform c.action).2.asked = w.asked
    rcases call_of_not_needsColumns h w with heq | ⟨types, heq⟩ <;> rw [heq]
    rfl

/-- A step on a sound writer asks at most once, and not at all if the writer is settled. -/
theorem asked_step {w : Writer} (hw : w.Sound) (step : Step) :
    ((w.walk [step]).asked = w.asked ∨ (w.walk [step]).asked = w.askedOnce) ∧
      (w.Settled → (w.walk [step]).asked = w.asked) := by
  cases hneeds : step.needsColumns with
  | true =>
    have hspends := (step_obtaining hneeds).thrifty w hw
    exact ⟨hspends.once.imp_right And.left, fun h => (hspends.settled h).2⟩
  | false =>
    have hasked := asked_of_not_needsColumns hneeds w
    exact ⟨.inl hasked, fun _ => hasked⟩

/-- Nothing unsettles a writer. -/
theorem Settled.walk {w : Writer} (h : w.Settled) (steps : List Step) :
    (w.walk steps).Settled := by
  have hinvariant : Invariant Settled :=
    { namesAsked := id
      infosAsked := id
      typesSet := fun _ _ => .inr rfl
      described := fun _ _ => .inl rfl
      validated := id
      numbered := fun _ => id
      reported := fun _ => id }
  exact walk_keeps hinvariant (fun _ _ _ h => h) steps w h

theorem Sound.step {w : Writer} (hw : w.Sound) {step : Step} (hstep : step.Answers) :
    (w.walk [step]).Sound := by
  by_cases hsettled : w.Settled
  · exact (hsettled.walk [step]).sound
  have hunchecked : w.validated ≠ true := fun h => hsettled (hw.validated h)
  cases step with
  | setOption name v =>
    cases name with
    | text name => exact ⟨hw.answers, hw.validated⟩
    | _ => exact hw
  | setSource source =>
    refine ⟨fun _ => ?_, hw.validated⟩
    rintro _ ⟨rfl⟩
    exact hstep
  | call c =>
    cases hneeds : c.needsColumns with
    | true => exact ((call_obtaining hneeds).thrifty w hw).sound
    | false =>
      show (w.perform c.action).2.Sound
      rcases call_of_not_needsColumns hneeds w with heq | ⟨types, heq⟩ <;> rw [heq]
      · exact hw
      · exact Settled.sound (.inr rfl)

/-! ## Walks -/

/-- A walk of a settled writer never asks. -/
theorem asked_walk_of_settled {w : Writer} (h : w.Settled) (steps : List Step) :
    (w.walk steps).asked = w.asked := by
  induction steps generalizing w with
  | nil => rfl
  | cons step rest ih => exact (ih (h.walk [step])).trans ((asked_step h.sound step).2 h)

theorem Sound.walk {w : Writer} (hw : w.Sound) {steps : List Step}
    (hsteps : ∀ step ∈ steps, step.Answers) : (w.walk steps).Sound := by
  induction steps generalizing w with
  | nil => exact hw
  | cons step rest ih =>
    obtain ⟨hstep, hrest⟩ := List.forall_mem_cons.1 hsteps
    exact ih (hw.step hstep) hrest

/-- In a step the whole list of the columns is found: the step ends well, or the columns can be
described from what is kept, what is set or what the source is asked for in the step. The step may
fail after that. -/
def Obtains (w : Writer) (step : Step) : Prop :=
  step.needsColumns = true ∧
    ((w.perform step.action).1.isOk = true ∨
      w.known.isOk = true ∧ (w.Settled ∨ (w.walk [step]).asked ≠ w.asked))

theorem Obtains.settled {w : Writer} (hw : w.Sound) {step : Step} (h : w.Obtains step) :
    (w.walk [step]).Settled := by
  obtain ⟨hneeds, hobtains⟩ := h
  have hspends := (step_obtaining hneeds).thrifty w hw
  rcases hobtains with hok | ⟨hknown, hsettled | hasked⟩
  · exact (step_obtaining hneeds).settled w hw hok
  · exact (hspends.settled hsettled).1
  · obtain ⟨-, hsettled⟩ := hspends.once.resolve_left hasked
    exact hsettled (.inr hknown)

/-- After any walk of a new writer whose sources always answer, a step asks the source for names
and infos equally often and at most once. Once a step has found the whole list of the columns, or
has set types, no later step asks any source, and steps that need no columns never do. -/
theorem walk_asked {d : Definition} {steps : List Step}
    (hsource : ∀ source, d.source = some source → source.Answers)
    (hsteps : ∀ step ∈ steps, step.Answers) :
    let w := walk { definition := d } steps
    (∀ step, (w.walk [step]).asked = w.asked ∨ (w.walk [step]).asked = w.askedOnce) ∧
    (∀ step later, w.Obtains step →
      (w.walk (step :: later)).asked = (w.walk [step]).asked) ∧
    (∀ entries later, w.succeeds (.setTypes entries) = true →
      (w.walk (.call (.setTypes entries) :: later)).asked = w.asked) ∧
    ∀ step, step.needsColumns = false → (w.walk [step]).asked = w.asked := by
  intro w
  have hnew : Sound { definition := d } := ⟨fun _ => hsource, by rintro ⟨⟩⟩
  have hw : w.Sound := hnew.walk hsteps
  refine ⟨fun step => (asked_step hw step).1, fun step later h => ?_, fun entries later h => ?_,
    fun step h => asked_of_not_needsColumns h w⟩
  · exact asked_walk_of_settled (h.settled hw) later
  · have hset : (w.walk [.call (.setTypes entries)]).Settled := by
      show (w.perform (Call.setTypes entries).action).2.Settled
      rw [succeeds_setTypes] at h
      rw [perform_setTypes]
      cases hentries : NameMap.ofEntries entries with
      | ok types => exact .inr rfl
      | error e =>
        rw [hentries] at h
        cases h
    exact (asked_walk_of_settled hset later).trans (asked_of_not_needsColumns rfl w)

/-- A request that fails for the type of a column has asked for all of them. A source that is put
in place after it is never asked. -/
theorem walk_asked_blob :
    let source := SchemaSource.fixed [.text "a", .text "b"]
      [(.text "a", .value (.text "DATE")), (.text "b", .value (.text "BLOB"))]
    let other := SchemaSource.fixed [.text "c"] [(.text "c", .value (.text "INTEGER"))]
    let d : Definition := ⟨{}, some source, .text "in", .text "out", false, false,
      ⟨⟨2024, 1, 1⟩, 0, 0, 0, 0, none⟩, ∅⟩
    let w := walk { definition := d } [.call .sourcePath]
    w.succeeds .generate = false ∧
      (w.walk [.call .generate, .setSource other, .call .createTable,
        .setOption (.text "hive_database") (.text "db"), .call .generate]).asked = (1, 1) := by
  intro source other d w
  have hsource : ∀ s, d.source = some s → s.Answers := by
    rintro _ ⟨rfl⟩ table
    exact ⟨rfl, rfl⟩
  have hsteps : ∀ step ∈ [Step.call .sourcePath], step.Answers := by
    simp [Step.Answers]
  have honce : (w.walk [.call .generate]).asked = (1, 1) := by decide +kernel
  have hobtains : w.Obtains (.call .generate) := by
    refine ⟨rfl, .inr ⟨by decide +kernel, .inr ?_⟩⟩
    rw [honce]
    decide +kernel
  refine ⟨by decide +kernel, ?_⟩
  rw [(walk_asked hsource hsteps).2.1 _ _ hobtains, honce]

end Writer

end HiveTable
