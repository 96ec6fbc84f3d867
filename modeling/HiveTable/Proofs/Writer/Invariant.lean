import HiveTable.Proofs.Success
import HiveTable.Proofs.Value.LongNumber
import HiveTable.Proofs.Writer.Transparency

/-!
# What every run of a writer keeps

Actions change a writer in seven ways only. A property of writers that none of these destroys is
an `Invariant`, and every action keeps it, however it ends: `Keeps` is closed under the constructs
that actions are made of. A walk is a run in which options may be assigned and the source may be
replaced between the calls; it changes the definition of the writer in these two fields alone.
-/

namespace HiveTable.Writer
variable {α β : Type} {I : Writer → Prop}

/-- A property that the changes actions make do not destroy. -/
structure Invariant (I : Writer → Prop) : Prop where
  namesAsked : ∀ {w : Writer}, I w → I { w with nameCalls := w.nameCalls + 1 }
  infosAsked : ∀ {w : Writer}, I w → I { w with infoCalls := w.infoCalls + 1 }
  typesSet : ∀ {w : Writer} (types : NameMap ColumnInfo), I w →
    I { w with types := some types, columns := none, validated := false }
  described : ∀ {w : Writer} {names : List Value} {info : NameMap ColumnInfo}
    {columns : List Column}, I w → describeAll names info = .ok columns →
      I { w with columns := some columns }
  validated : ∀ {w : Writer}, I w → I { w with validated := true }
  numbered : ∀ {w : Writer} (request : Nat), I w → I { w with requests := request }
  reported : ∀ {w : Writer} (e : Event), I w → I { w with events := w.events ++ [e] }

/-- An action keeps a property, whether it succeeds or fails. -/
def Keeps (I : Writer → Prop) (a : Action α) : Prop := ∀ w, I w → I (w.perform a).2

namespace Keeps

protected theorem pure (x : α) : Keeps I (pure x) := fun _ h => h

protected theorem throw (e : Failure) : Keeps I (throw e : Action α) := fun _ h => h

theorem lift (r : Except Failure α) : Keeps I (liftM r) := fun _ h => h

protected theorem bind {a : Action α} {f : α → Action β} (ha : Keeps I a)
    (hf : ∀ x, Keeps I (f x)) : Keeps I (a >>= f) := by
  intro w hw
  have hfirst := ha w hw
  rw [perform_bind]
  rcases hrun : w.perform a with ⟨_ | x, w₁⟩ <;> rw [hrun] at hfirst
  · exact hfirst
  · exact hf x w₁ hfirst

theorem lift_bind {r : Except Failure α} {f : α → Action β}
    (hf : ∀ x, r = .ok x → Keeps I (f x)) : Keeps I (liftM r >>= f) := by
  cases r with
  | error e => exact .throw e
  | ok x => exact hf x rfl

protected theorem tryCatch {a : Action α} {f : Failure → Action α} (ha : Keeps I a)
    (hf : ∀ e, Keeps I (f e)) : Keeps I (tryCatch a f) := by
  intro w hw
  have hfirst := ha w hw
  rw [perform_tryCatch]
  rcases hrun : w.perform a with ⟨e | _, w₁⟩ <;> rw [hrun] at hfirst
  · exact hf e w₁ hfirst
  · exact hfirst

theorem mapM {f : α → Action β} (h : ∀ x, Keeps I (f x)) (l : List α) : Keeps I (l.mapM f) := by
  induction l with
  | nil => exact .pure []
  | cons x rest ih =>
    rw [List.mapM_cons]
    exact .bind (h x) fun y => .bind ih fun ys => .pure (y :: ys)

theorem get_bind {f : Writer → Action α} (h : ∀ w, I w → Keeps I (f w)) :
    Keeps I (get >>= f) := by
  intro w hw
  rw [perform_get_bind]
  exact h w hw w hw

protected theorem modify {f : Writer → Writer} (h : ∀ w, I w → I (f w)) :
    Keeps I (modify f) := fun w hw => h w hw

end Keeps

/-! ## The actions -/

namespace Invariant

theorem emit (h : Invariant I) (e : Event) : Keeps I (emit e) :=
  .bind (.lift _) fun _ => .modify fun _ => h.reported e

theorem learn (h : Invariant I) : Keeps I learn := by
  refine .get_bind fun w _ => ?_
  dsimp only
  cases w.definition.source with
  | none => exact .throw _
  | some source =>
    cases w.definition.inputTable.isGiven with
    | false => exact .throw _
    | true =>
      refine .bind (.modify fun _ => h.namesAsked) fun _ => .bind (.lift _) fun names => ?_
      refine .bind (.modify fun _ => h.infosAsked) fun _ => .bind (.lift _) fun entries => ?_
      exact .bind (.lift _) fun info => .pure _

theorem describe (h : Invariant I) : Keeps I describe := by
  refine .get_bind fun w _ => ?_
  cases w.columns with
  | some columns => exact .pure columns
  | none =>
    refine .get_bind fun w _ => ?_
    have hdescribed : ∀ schema : List Value × NameMap ColumnInfo, Keeps I (do
        let columns ← describeAll schema.1 schema.2
        modify fun w => { w with columns := some columns }
        return columns : Action (List Column)) := fun schema =>
      .lift_bind fun columns hcolumns =>
        .bind (.modify fun _ hw => h.described hw hcolumns) fun _ => .pure columns
    cases w.types with
    | some types => exact hdescribed (types.names.map .text, types)
    | none => exact .bind h.learn fun schema => hdescribed schema

theorem validate (h : Invariant I) : Keeps I validate := by
  refine .get_bind fun w _ => ?_
  cases w.validated with
  | true => exact .pure ()
  | false =>
    refine .bind h.describe fun columns => .get_bind fun w _ => ?_
    exact .bind (.lift _) fun _ => .modify fun _ => h.validated

theorem resolve (h : Invariant I) (c : Column) : Keeps I (resolve c) := by
  refine .bind h.validate fun _ => .get_bind fun w _ => .bind (.lift _) fun type => ?_
  dsimp only
  split
  · exact .bind (h.emit _) fun _ => .pure type
  · exact .pure type

theorem createTable (h : Invariant I) : Keeps I createTable := by
  refine .bind h.describe fun columns => .bind h.validate fun _ => ?_
  refine .get_bind fun w _ => .bind (.lift _) fun _ => ?_
  refine .bind (.mapM (fun c => .bind (h.resolve c) fun type => .pure _) columns) fun typed => ?_
  exact .get_bind fun w _ => .lift _

theorem statements (h : Invariant I) : Keeps I statements :=
  .bind h.createTable fun _ => .bind (.get_bind fun _ _ => .lift _) fun _ => .pure _

theorem generate (h : Invariant I) : Keeps I generate := by
  refine .get_bind fun w _ => .bind (.modify fun _ => h.numbered _) fun _ => ?_
  refine .get_bind fun w _ => .bind (h.emit _) fun _ => ?_
  refine .bind (.tryCatch h.statements fun f => ?_) fun found => ?_
  · cases f with
    | refused r => exact .bind (h.emit _) fun _ => .throw _
    | _ => exact .throw _
  · exact .bind h.describe fun columns => .bind (h.emit _) fun _ => .pure found

theorem call (h : Invariant I) (call : Call) : Keeps I call.action := by
  cases call with
  | setTypes entries =>
    exact .bind (.bind (.lift _) fun types => .modify fun _ => h.typesSet types) fun _ => .pure _
  | describe => exact .bind h.describe fun _ => .pure _
  | validate => exact .bind h.validate fun _ => .pure _
  | resolve c => exact .bind (h.resolve c) fun _ => .pure _
  | createTable => exact .bind h.createTable fun _ => .pure _
  | loadData => exact .bind (.get_bind fun _ _ => .lift _) fun _ => .pure _
  | sourcePath => exact .bind (.get_bind fun _ _ => .lift _) fun _ => .pure _
  | generate => exact .bind h.generate fun _ => .pure _
  | generateFields => exact .bind (.bind h.generate fun _ => .pure _) fun _ => .pure _

end Invariant

/-! ## Walks -/

inductive Step
  | call (c : Call)
  | setOption (name v : Value)
  | setSource (source : SchemaSource)

def Step.action : Step → Action Reply
  | .call c => c.action
  | .setOption name v => do Writer.setOption name v; return .done
  | .setSource source => do Writer.setSource source; return .done

/-- The writer after some steps, each of which may fail. -/
def walk (w : Writer) (steps : List Step) : Writer :=
  steps.foldl (fun w step => (w.perform step.action).2) w

/-- A walk keeps what neither calls nor new options or sources destroy. -/
theorem walk_keeps (h : Invariant I)
    (hassigned : ∀ (w : Writer) (options : Options) (source : Option SchemaSource), I w →
      I { w with definition := { w.definition with options := options, source := source } })
    (steps : List Step) : ∀ w, I w → I (w.walk steps) := by
  have hstep : ∀ w step, I w → I (w.perform (Step.action step)).2 := by
    intro w step hw
    cases step with
    | call c => exact h.call c w hw
    | setOption name v =>
      cases name with
      | text name => exact hassigned w _ w.definition.source hw
      | _ => exact hw
    | setSource source => exact hassigned w w.definition.options (some source) hw
  induction steps with
  | nil => exact fun w hw => hw
  | cons step rest ih => exact fun w hw => ih _ (hstep w step hw)

/-- Whether a step assigns the option with a name. -/
def Step.assigns (name : String) : Step → Bool
  | .setOption (.text t) _ => t.string? == some name
  | _ => false

/-- An option that no step assigns is as it was. The field may be any that assignments of other
options leave alone. -/
theorem walk_option {β : Type} (field : Options → β) {name : String}
    (hother : ∀ (o : Options) (s : String) v, s ≠ name → field (o.set s v) = field o)
    {steps : List Step} (hsteps : ∀ step ∈ steps, step.assigns name = false) (w : Writer) :
    field (w.walk steps).definition.options = field w.definition.options := by
  have hcall : ∀ w₀ : Writer, Invariant fun w =>
      field w.definition.options = field w₀.definition.options := fun w₀ =>
    ⟨id, id, fun _ => id, fun h _ => h, id, fun _ => id, fun _ => id⟩
  induction steps generalizing w with
  | nil => rfl
  | cons step rest ih =>
    obtain ⟨hfirst, hrest⟩ := List.forall_mem_cons.1 hsteps
    refine (ih hrest _).trans ?_
    cases step with
    | call c => exact (hcall w).call c w rfl
    | setSource source => rfl
    | setOption key v =>
      cases key with
      | text t =>
        show field ((t.string?.map (w.definition.options.set · v)).getD w.definition.options) = _
        cases hstring : t.string? with
        | none => rfl
        | some s =>
          refine hother _ s v ?_
          rintro rfl
          simp [Step.assigns, hstring] at hfirst
      | _ => rfl

/-! ## Names and overrides -/

/-- The names of described columns are texts. -/
theorem describeAll_names {names : List Value} {info : NameMap ColumnInfo} {columns : List Column}
    (h : describeAll names info = .ok columns) :
    ∀ c ∈ columns, ∃ name, c.name = .text name := by
  induction names generalizing columns with
  | nil =>
    obtain rfl := Except.ok.inj h
    simp
  | cons v names ih =>
    unfold describeAll at h
    rw [List.mapM_cons] at h
    obtain ⟨c, hc, h⟩ := bind_eq_ok.1 h
    obtain ⟨rest, hrest, h⟩ := bind_eq_ok.1 h
    obtain rfl := Except.ok.inj h
    refine List.forall_mem_cons.2 ⟨?_, ih hrest⟩
    split at hc
    · cases hc
    · rename_i i hinfo
      cases v with
      | text name => exact ⟨name, Column.ofInfo_name (mapError_eq_ok.1 hc)⟩
      | _ => cases hinfo

/-- The names of columns that are kept are texts. -/
theorem invariant_names : Invariant fun w =>
    ∀ columns, w.columns = some columns → ∀ c ∈ columns, ∃ name, c.name = .text name where
  namesAsked := id
  infosAsked := id
  typesSet := by
    rintro w types - _ ⟨⟩
  described := by
    rintro w names info columns - hcolumns _ ⟨rfl⟩
    exact describeAll_names hcolumns
  validated := id
  numbered := fun _ => id
  reported := fun _ => id

/-- The overrides are never read again. -/
theorem walk_overrides (w : Writer) (steps : List Step) :
    (w.walk steps).definition.overrides = w.definition.overrides :=
  walk_keeps (I := fun w' => w'.definition.overrides = w.definition.overrides)
    ⟨id, id, fun _ => id, fun h _ => h, id, fun _ => id, fun _ => id⟩ (fun _ _ _ h => h) steps w rfl

end HiveTable.Writer
