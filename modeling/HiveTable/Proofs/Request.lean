import HiveTable.Request
import HiveTable.Proofs.Writer.Trace

/-!
# The reports of a request

A request that is refused before the work starts is refused for its configuration, and the
rejection is all that is reported. Otherwise its report has a first event, the columns whose
types were found, and a last event that says how the request ended: `answer_events`. The class of
a refusal is found by `FailsOnly`, which is closed under the constructs that the checks of a
request are made of.
-/

namespace HiveTable
variable {ε ε' α β : Type} {P : ε → Prop}

/-- Of all failures only those with `P` occur. -/
def FailsOnly (P : ε → Prop) (x : Except ε α) : Prop := ∀ e, x = .error e → P e

namespace FailsOnly

protected theorem ok (a : α) : FailsOnly P (.ok a) := by
  rintro e ⟨⟩

protected theorem error {e : ε} (h : P e) : FailsOnly P (.error e : Except ε α) := by
  rintro _ ⟨rfl⟩
  exact h

protected theorem bind {x : Except ε α} {f : α → Except ε β} (hx : FailsOnly P x)
    (hf : ∀ a, FailsOnly P (f a)) : FailsOnly P (x >>= f) := by
  intro e h
  rcases bind_eq_error.1 h with h | ⟨a, -, h⟩
  · exact hx e h
  · exact hf a e h

theorem mapError {P' : ε' → Prop} {x : Except ε α} {g : ε → ε'} (hx : FailsOnly P x)
    (hg : ∀ e, P e → P' (g e)) : FailsOnly P' (x.mapError g) := by
  intro e' h
  obtain ⟨e, he, rfl⟩ := mapError_eq_error.1 h
  exact hg e (hx e he)

theorem mapM {f : α → Except ε β} (hf : ∀ a, FailsOnly P (f a)) (l : List α) :
    FailsOnly P (l.mapM f) := by
  induction l with
  | nil => exact .ok []
  | cons a rest ih =>
    rw [List.mapM_cons]
    exact .bind (hf a) fun b => .bind ih fun bs => .ok (b :: bs)

theorem foldlM {f : β → α → Except ε β} (hf : ∀ b a, FailsOnly P (f b a)) (l : List α) (b : β) :
    FailsOnly P (l.foldlM f b) := by
  induction l generalizing b with
  | nil => exact .ok b
  | cons a rest ih =>
    rw [List.foldlM_cons]
    exact .bind (hf b a) ih

theorem forM {f : α → Except ε PUnit} {l : List α} (hf : ∀ a ∈ l, FailsOnly P (f a)) :
    FailsOnly P (l.forM f) := by
  induction l with
  | nil => exact .ok ()
  | cons a rest ih =>
    obtain ⟨hfirst, hrest⟩ := List.forall_mem_cons.1 hf
    exact .bind hfirst fun _ => ih hrest

theorem any (x : Except ε α) : FailsOnly (fun _ => True) x := fun _ _ => trivial

theorem mono {P' : ε → Prop} {x : Except ε α} (hx : FailsOnly P x) (h : ∀ e, P e → P' e) :
    FailsOnly P' x := fun e he => h e (hx e he)

end FailsOnly

theorem Level.info_le (l : Level) : Level.info.number ≤ l.number := by
  cases l <;> decide

/-- A refusal of the configuration. -/
def Refusal.OfConfiguration (r : Refusal) : Prop := r.label = "ConfigurationError"

/-- A failure that is of the configuration if it is a refusal. -/
def Failure.OfConfiguration : Failure → Prop
  | .refused r => r.OfConfiguration
  | _ => True

/-! ## The checks of a request -/

theorem Options.checkNames_fails {known : String → Bool} (refusal : List Text → Refusal)
    (h : ∀ names, (refusal names).OfConfiguration) (names : List Value) :
    FailsOnly Failure.OfConfiguration (Options.checkNames known refusal names) := by
  unfold Options.checkNames
  split
  · exact .ok ()
  · split
    · exact .error (h _)
    · exact .error trivial

theorem Catalog.ofSpecs_fails (table specs : Value) :
    FailsOnly Failure.OfConfiguration (ofSpecs table specs) := by
  have hitems : FailsOnly Failure.OfConfiguration (itemsOf specs) := by
    unfold itemsOf
    split <;> first | exact .ok _ | exact .error trivial
  have hcolumn : ∀ spec, FailsOnly Failure.OfConfiguration (columnOf spec) := by
    intro spec
    unfold columnOf
    split
    · dsimp only
      split
      · exact .mapError (.any _) fun _ _ => trivial
      · exact .error trivial
    · exact .error trivial
  refine .bind hitems fun items => .bind (.mapM hcolumn items) fun columns => ?_
  split
  · exact .ok _
  · exact .error trivial

theorem Codec.ofValue_fails (v : Value) : FailsOnly Failure.OfConfiguration (ofValue v) := by
  unfold ofValue
  split
  · exact .error rfl
  · split
    · split
      · exact .ok _
      · exact .error rfl
    · exact .error trivial

namespace Options

theorem entryOf_fails (item : Value) : FailsOnly Failure.OfConfiguration (entryOf item) := by
  unfold entryOf
  split
  · split
    · exact .ok _
    · exact .error trivial
  all_goals first | exact .ok _ | exact .error trivial

theorem entriesOf_fails (v : Value) : FailsOnly Failure.OfConfiguration (entriesOf v) := by
  unfold entriesOf
  split
  · exact .ok []
  · split
    · exact .ok _
    · exact .foldlM (fun entries item => .bind (entryOf_fails item) fun _ => .ok _) _ _
    · exact .error trivial
    · exact .error trivial

theorem assign_fails (entries : Entries Value) :
    FailsOnly Failure.OfConfiguration (assign entries) := by
  refine .foldlM (fun o e => ?_) entries _
  split
  · split
    · exact .ok _
    · exact .error trivial
  · exact .error trivial

theorem textual_fails (v : Value) : FailsOnly Failure.OfConfiguration (textual v) := by
  unfold textual
  split
  · exact .ok _
  · split
    · exact .error trivial
    · exact .ok _

theorem check_fails (o : Options) : FailsOnly Failure.OfConfiguration o.check := by
  unfold check
  dsimp only
  split
  · exact .error (by rfl)
  · split
    · exact .error (by rfl)
    · split
      · exact .bind (Codec.ofValue_fails _) fun _ => .ok o
      · exact .ok o

theorem ofValue_fails (v : Value) : FailsOnly Failure.OfConfiguration (ofValue v) := by
  refine .bind (entriesOf_fails v) fun entries => ?_
  refine .bind (checkNames_fails .unknownOptions (fun _ => rfl) _) fun _ => ?_
  refine .bind (assign_fails entries) fun o => ?_
  refine .bind (textual_fails _) fun key => ?_
  exact .bind (textual_fails _) fun value => check_fails _

end Options

theorem Overrides.parse_fails (t : Text) : FailsOnly Refusal.OfConfiguration (parse t) := by
  have hadd : ∀ m piece, FailsOnly Refusal.OfConfiguration (add m piece) := by
    intro m piece
    unfold add
    split
    · exact .error rfl
    · split
      · exact .error rfl
      · exact .ok _
  unfold parse
  split
  · exact .ok _
  · exact .foldlM hadd _ _

theorem Definition.make_fails (options : Options) (source : Option SchemaSource)
    (inputTable outputTable : Value) (withComments terminate : Bool) (clock : Moment) :
    FailsOnly Failure.OfConfiguration
      (make options source inputTable outputTable withComments terminate clock) := by
  have hoverrides : FailsOnly Failure.OfConfiguration (Overrides.ofValue options.overrides) := by
    unfold Overrides.ofValue
    split
    · exact .ok _
    · exact .mapError (Overrides.parse_fails _) fun r h => h
    · exact .error trivial
  unfold make
  split
  · exact .error trivial
  · exact .bind hoverrides fun _ => .ok _

namespace Request

theorem definition_fails (clock : Moment) (request : Value) :
    FailsOnly Failure.OfConfiguration (definition clock request) := by
  unfold definition
  split
  · dsimp only
    refine .bind (Options.checkNames_fails .unknownRequestKeys (fun _ => rfl) _) fun _ => ?_
    split
    · exact .error (by rfl)
    split
    case h_3 => exact .error (by rfl)
    all_goals
      refine .bind (.ok _) fun specs => ?_
      refine .bind (.mapError (Catalog.ofSpecs_fails _ specs) fun f hf => ?_) fun catalog => ?_
      · cases f <;> first | exact hf | rfl
      · exact .bind (Options.ofValue_fails _) fun options => Definition.make_fails _ _ _ _ _ _ _
  · exact .error rfl

theorem answer_of_definition {clock : Moment} {request : Value} {d : Definition}
    (h : definition clock request = .ok d) :
    answer clock request =
      let (result, w) := Writer.perform { definition := d } Writer.generate
      (result.map (⟨d.inputTable, d.outputTable, ·⟩), w.events) := by
  rw [answer, h]
  rfl

/-- What is reported of a request. Before the work starts it is refused for its configuration
alone, and the rejection is all that is reported. A request that is answered or refused later is
reported to start, then come the columns that had to be held less exactly, in order, as far as
types were found, and last the answer or the refusal, with the number of the request. Nothing of
this is below the information level. -/
theorem answer_events (clock : Moment) (request : Value) :
    (∀ r, definition clock request = .error (.refused r) →
      r.label = "ConfigurationError" ∧
        answer clock request = (.error (.refused r), [.rejected r])) ∧
    (∀ d, definition clock request = .ok d →
      let started := .started 1 d.inputTable d.outputTable d.options.database
      (∀ a, (answer clock request).1 = .ok a → ∃ typed, d.Completed none typed ∧
        (answer clock request).2 =
          started :: d.warnings typed ++ [.generated 1 d.outputTable typed.length]) ∧
      ∀ r, (answer clock request).1 = .error (.refused r) → ∃ typed, d.Refused none r typed ∧
        (answer clock request).2 =
          started :: d.warnings typed ++ [.failed 1 d.outputTable r]) ∧
    ∀ e ∈ (answer clock request).2, Level.info.number ≤ e.level.number := by
  refine ⟨fun r hr => ⟨definition_fails clock request _ hr, ?_⟩, fun d hd => ?_, fun e _ => ?_⟩
  · rw [answer, hr]
  · have hnew := Writer.coherent_new d
    rcases hrun : Writer.perform { definition := d } Writer.generate with ⟨result, w⟩
    rw [answer_of_definition hd, hrun]
    cases result with
    | ok statements =>
      obtain ⟨typed, hcompleted, -, hevents⟩ := Writer.perform_generate_ok hnew hrun
      exact ⟨fun _ _ => ⟨typed, hcompleted, hevents⟩, by rintro r ⟨⟩⟩
    | error f =>
      refine ⟨by rintro a ⟨⟩, ?_⟩
      rintro r ⟨rfl⟩
      exact Writer.perform_generate_refused hnew hrun
  · exact Level.info_le e.level

/-- A date is reported between the start and the end of its request. -/
theorem answer_events_date :
    let clock : Moment := ⟨⟨2024, 1, 1⟩, 0, 0, 0, 0, none⟩
    let request := entries [("input_table", .text "t"), ("columns", .list
      [entries [("name", .text "id"), ("type", .text "INTEGER")],
       entries [("name", .text "born"), ("type", .text "DATE")]])]
    ∃ (d : Definition) (typed : List (Column × Text)), definition clock request = .ok d ∧
      d.Completed none typed ∧
      (answer clock request).2 = .started 1 (.text "t") (.text "t") .null :: d.warnings typed ++
        [.generated 1 (.text "t") typed.length] := by
  intro clock request
  have hok : (answer clock request).1.isOk = true := by decide +kernel
  obtain ⟨a, ha⟩ : ∃ a, (answer clock request).1 = .ok a := by
    cases h : (answer clock request).1 with
    | error f =>
      rw [h] at hok
      cases hok
    | ok a => exact ⟨a, rfl⟩
  obtain ⟨d, hd, hin, hout, hdatabase⟩ : ∃ d, definition clock request = .ok d ∧
      d.inputTable = .text "t" ∧ d.outputTable = .text "t" ∧ d.options.database = .null :=
    ⟨_, rfl, rfl, rfl, rfl⟩
  obtain ⟨typed, hcompleted, hevents⟩ := ((answer_events clock request).2.1 d hd).1 a ha
  rw [hin, hout, hdatabase] at hevents
  exact ⟨d, typed, hd, hcompleted, hevents⟩

end Request

end HiveTable
