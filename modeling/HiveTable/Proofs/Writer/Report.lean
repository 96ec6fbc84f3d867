import HiveTable.Writer

/-!
# What a definition yields when nothing is kept

A `Report` is how work ended together with what was reported on the way. For a definition and
the types that were set by hand, if any, the functions below say what each step of the work
yields when everything is found out anew: `schema`, `columns` and `validate` only end in a value
or a failure, and `resolveReport`, `createReport` and `generateReport` report events besides.
Requests are not numbered here.
-/

namespace HiveTable

/-- An event but for the number of its request. -/
def Event.unnumbered : Event → Event
  | .started _ inputTable outputTable database => .started 0 inputTable outputTable database
  | .failed _ outputTable refusal => .failed 0 outputTable refusal
  | .generated _ outputTable columns => .generated 0 outputTable columns
  | e => e

/-- The number of the request is no part of the text that is checked. -/
theorem Event.text_unnumbered (e : Event) :
    e.unnumbered.text (fun _ => "") .zero = e.text (fun _ => "") .zero := by
  cases e <;> rfl

structure Report (α : Type) where
  result : Except Failure α
  events : List Event

namespace Report
variable {α β : Type}

instance : Monad Report where
  pure a := ⟨.ok a, []⟩
  bind r f :=
    match r.result with
    | .ok a => ⟨(f a).result, r.events ++ (f a).events⟩
    | .error e => ⟨.error e, r.events⟩

/-- What only ends in a value or a failure reports nothing. -/
instance : MonadLift (Except Failure) Report := ⟨fun r => ⟨r, []⟩⟩

def throw (f : Failure) : Report α := ⟨.error f, []⟩

/-- What was reported before a failure stays reported. -/
def rescue (r : Report α) (handle : Failure → Report α) : Report α :=
  match r.result with
  | .ok a => ⟨.ok a, r.events⟩
  | .error f => ⟨(handle f).result, r.events ++ (handle f).events⟩

/-- An event that has no text cannot be reported. -/
def emit (e : Event) : Report Unit :=
  match e.text (fun _ => "") .zero with
  | .ok _ => ⟨.ok (), [e]⟩
  | .error f => ⟨.error f, []⟩

theorem bind_of_ok {r : Report α} {a : α} (h : r.result = .ok a) (f : α → Report β) :
    r >>= f = ⟨(f a).result, r.events ++ (f a).events⟩ := by
  simp [bind, h]

theorem bind_of_error {r : Report α} {e : Failure} (h : r.result = .error e)
    (f : α → Report β) : r >>= f = ⟨.error e, r.events⟩ := by
  simp [bind, h]

theorem mk_eq {r : Report α} {x : Except Failure α} {events : List Event} :
    r = ⟨x, events⟩ ↔ r.result = x ∧ r.events = events := by
  cases r
  simp

theorem lift_eq_iff {x y : Except Failure α} {events : List Event} :
    (liftM x : Report α) = ⟨y, events⟩ ↔ x = y ∧ events = [] := by
  rw [mk_eq]
  exact and_congr_right fun _ => eq_comm

theorem pure_eq_iff {a : α} {x : Except Failure α} {events : List Event} :
    (pure a : Report α) = ⟨x, events⟩ ↔ x = .ok a ∧ events = [] := by
  rw [mk_eq]
  exact and_congr eq_comm eq_comm

/-- Work that ended well had both its parts end well. -/
theorem bind_eq_ok_iff {r : Report α} {f : α → Report β} {b : β} {events : List Event} :
    r >>= f = ⟨.ok b, events⟩ ↔ ∃ a first rest, r = ⟨.ok a, first⟩ ∧ f a = ⟨.ok b, rest⟩ ∧
      events = first ++ rest := by
  cases hr : r.result with
  | error e => simp [bind_of_error hr, mk_eq, hr]
  | ok a =>
    simp only [bind_of_ok hr, mk_eq, hr, Except.ok.injEq]
    constructor
    · rintro ⟨hresult, rfl⟩
      exact ⟨a, _, _, ⟨rfl, rfl⟩, ⟨hresult, rfl⟩, rfl⟩
    · rintro ⟨_, _, _, ⟨rfl, rfl⟩, ⟨hresult, rfl⟩, rfl⟩
      exact ⟨hresult, rfl⟩

/-- Work that failed did so in its first part, or in the rest after the first part ended well. -/
theorem bind_eq_error_iff {r : Report α} {f : α → Report β} {e : Failure} {events : List Event} :
    r >>= f = ⟨.error e, events⟩ ↔ r = ⟨.error e, events⟩ ∨
      ∃ a first rest, r = ⟨.ok a, first⟩ ∧ f a = ⟨.error e, rest⟩ ∧ events = first ++ rest := by
  cases hr : r.result with
  | error e' => simp [bind_of_error hr, mk_eq, hr]
  | ok a =>
    simp only [bind_of_ok hr, mk_eq, hr, Except.ok.injEq, reduceCtorEq, false_and, false_or]
    constructor
    · rintro ⟨hresult, rfl⟩
      exact ⟨a, _, _, ⟨rfl, rfl⟩, ⟨hresult, rfl⟩, rfl⟩
    · rintro ⟨_, _, _, ⟨rfl, rfl⟩, ⟨hresult, rfl⟩, rfl⟩
      exact ⟨hresult, rfl⟩

theorem lift_bind_eq_ok_iff {x : Except Failure α} {f : α → Report β} {b : β}
    {events : List Event} :
    liftM x >>= f = ⟨.ok b, events⟩ ↔ ∃ a, x = .ok a ∧ f a = ⟨.ok b, events⟩ := by
  rw [bind_eq_ok_iff]
  constructor
  · rintro ⟨a, _, rest, hlift, hf, rfl⟩
    obtain ⟨hx, rfl⟩ := lift_eq_iff.1 hlift
    exact ⟨a, hx, hf⟩
  · rintro ⟨a, hx, hf⟩
    exact ⟨a, [], events, lift_eq_iff.2 ⟨hx, rfl⟩, hf, rfl⟩

theorem lift_bind_eq_error_iff {x : Except Failure α} {f : α → Report β} {e : Failure}
    {events : List Event} :
    liftM x >>= f = ⟨.error e, events⟩ ↔
      (x = .error e ∧ events = []) ∨ ∃ a, x = .ok a ∧ f a = ⟨.error e, events⟩ := by
  rw [bind_eq_error_iff, lift_eq_iff]
  refine or_congr_right ⟨?_, ?_⟩
  · rintro ⟨a, _, rest, hlift, hf, rfl⟩
    obtain ⟨hx, rfl⟩ := lift_eq_iff.1 hlift
    exact ⟨a, hx, hf⟩
  · rintro ⟨a, hx, hf⟩
    exact ⟨a, [], events, lift_eq_iff.2 ⟨hx, rfl⟩, hf, rfl⟩

protected theorem id_map (r : Report α) : id <$> r = r := by
  obtain ⟨result, events⟩ := r
  cases result with
  | error e => rfl
  | ok a =>
    show Report.mk (.ok a) (events ++ []) = _
    rw [List.append_nil]

protected theorem bind_assoc {γ : Type} (r : Report α) (f : α → Report β) (g : β → Report γ) :
    r >>= f >>= g = r >>= fun a => f a >>= g := by
  cases hr : r.result with
  | error e =>
    rw [bind_of_error hr, bind_of_error hr]
    rfl
  | ok a =>
    rw [bind_of_ok hr, bind_of_ok hr]
    cases hf : (f a).result with
    | error e =>
      rw [bind_of_error hf]
      exact bind_of_error rfl g
    | ok b =>
      rw [bind_of_ok hf, bind_of_ok rfl, List.append_assoc]

instance : LawfulMonad Report :=
  LawfulMonad.mk' Report Report.id_map (fun _ _ => rfl) Report.bind_assoc

theorem lift_bind (x : Except Failure α) (f : α → Except Failure β) :
    (liftM (x >>= f) : Report β) = liftM x >>= fun a => liftM (f a) := by
  cases x <;> rfl

theorem lift_mapM (f : α → Except Failure β) (l : List α) :
    (liftM (l.mapM f) : Report (List β)) = l.mapM fun a => liftM (f a) := by
  induction l with
  | nil => rfl
  | cons a rest ih =>
    rw [List.mapM_cons, List.mapM_cons, ← ih, lift_bind]
    congr 1
    funext b
    rw [lift_bind]
    rfl

theorem result_map (f : α → β) (r : Report α) : (f <$> r).result = r.result.map f := by
  rcases r with ⟨e | a, events⟩ <;> rfl

theorem events_map (f : α → β) (r : Report α) : (f <$> r).events = r.events := by
  rcases r with ⟨e | a, events⟩
  · rfl
  · exact List.append_nil events

theorem lift_map (f : α → β) (x : Except Failure α) :
    (liftM (f <$> x) : Report β) = f <$> liftM x := by
  cases x <;> rfl

theorem rescue_map (f : α → β) (r : Report α) (handle : Failure → Report α)
    (handle' : Failure → Report β) (h : ∀ e, handle' e = f <$> handle e) :
    (f <$> r).rescue handle' = f <$> r.rescue handle := by
  rcases r with ⟨e | a, events⟩
  · show Report.mk (handle' e).result (events ++ (handle' e).events) =
      f <$> Report.mk (handle e).result (events ++ (handle e).events)
    rw [h]
    rcases handle e with ⟨e' | a, events'⟩
    · rfl
    · show Report.mk (.ok (f a)) (events ++ (events' ++ [])) = ⟨.ok (f a), events ++ events' ++ []⟩
      rw [List.append_assoc]
  · rfl

end Report

namespace Definition

/-- The names of the columns and what is known of them: set by hand, or learned from the
source. -/
def schema (d : Definition) :
    Option (NameMap ColumnInfo) → Except Failure (List Value × NameMap ColumnInfo)
  | some types => .ok (types.names.map .text, types)
  | none =>
    match d.source with
    | none => .error (.refused .noSchema)
    | some source =>
      if !d.inputTable.isGiven then .error (.refused .noSchema)
      else do
        let names ← source.columnNames d.inputTable
        let info ← NameMap.ofEntries (← source.columnInfo d.inputTable)
        return (names, info)

variable (d : Definition) (types : Option (NameMap ColumnInfo))

def columns : Except Failure (List Column) := do
  let (names, info) ← d.schema types
  Writer.describeAll names info

def validate : Except Failure Unit := do
  let columns ← d.columns types
  checkOverrides d.overrides (columns.map (·.name))

def resolveReport (c : Column) : Report Text := do
  d.validate types
  let type ← d.resolve c
  if c.type.isImprovised then
    Report.emit (.improvised d.outputTable c.name c.type.describe type)
  return type

def createReport : Report Text := do
  let columns ← d.columns types
  d.validate types
  d.checkPartition columns
  let typed ← columns.mapM fun c => do return (c.name, ← d.resolveReport types c)
  d.createTable typed

def statementsReport : Report Statements := do
  return ⟨← d.createReport types, ← d.loadData⟩

/-- What is reported of a failure before it goes on. -/
def failureReport {α : Type} (f : Failure) : Report α := do
  match f with
  | .refused r => Report.emit (.failed 0 d.outputTable r)
  | _ => pure ()
  Report.throw f

def generateReport : Report Statements := do
  Report.emit (.started 0 d.inputTable d.outputTable d.options.database)
  let statements ← (d.statementsReport types).rescue d.failureReport
  let columns ← d.columns types
  Report.emit (.generated 0 d.outputTable columns.length)
  return statements

def fieldsReport : Report (List (String × Text)) := do
  return (← d.generateReport types).fields

end Definition

end HiveTable
