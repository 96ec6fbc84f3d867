import HiveTable.Proofs.Writer.Trace

/-!
# How actions end on any writer

What a writer knows decides how its actions end. `perform_validate_eq` says so of the check of the
overrides together with the writer that is left, `typeOf` is the type that is found for a column,
and `perform_createTable_ok` says what a statement is made of.
-/

namespace HiveTable.Writer

/-! ## Columns and checks -/

theorem perform_describe_ok {w w' : Writer} {columns : List Column}
    (hrun : w.perform describe = (.ok columns, w')) :
    w.known = .ok columns ∧ w'.definition = w.definition ∧ w'.checked = w.checked := by
  obtain ⟨names, infos, hdescribe⟩ := perform_describe_eq w
  rw [hdescribe] at hrun
  obtain ⟨hknown, rfl⟩ := Prod.mk.inj hrun
  refine ⟨hknown, rfl, ?_⟩
  rw [checked, checked, hknown]
  rfl

theorem perform_validate_eq (w : Writer) : ∃ columns names infos,
    w.perform validate = (w.checked, { w with
      columns := columns, validated := w.checked.isOk
      nameCalls := names, infoCalls := infos }) := by
  unfold validate
  rw [perform_get_bind]
  obtain ⟨definition, types, columns, validated, names, infos, requests, events⟩ := w
  cases validated with
  | true => exact ⟨_, _, _, rfl⟩
  | false =>
    obtain ⟨n, i, hdescribe⟩ := perform_describe_eq
      ⟨definition, types, columns, false, names, infos, requests, events⟩
    dsimp only at hdescribe ⊢
    unfold checked
    simp only [Bool.false_eq_true, if_false]
    rw [perform_bind, hdescribe]
    cases known ⟨definition, types, columns, false, names, infos, requests, events⟩ with
    | error e => exact ⟨_, _, _, rfl⟩
    | ok found =>
      dsimp only
      rw [perform_get_bind, perform_lift_bind, ok_bind]
      dsimp only
      cases checkOverrides definition.overrides (found.map (·.name)) <;> exact ⟨_, _, _, rfl⟩

theorem perform_validate_ok {w w' : Writer} {u : Unit}
    (hrun : w.perform validate = (.ok u, w')) :
    w.checked = .ok () ∧ w'.definition = w.definition ∧ w'.checked = .ok () := by
  obtain ⟨columns, names, infos, hvalidate⟩ := perform_validate_eq w
  rw [hvalidate] at hrun
  obtain ⟨hchecked, rfl⟩ := Prod.mk.inj hrun
  refine ⟨hchecked, rfl, ?_⟩
  rw [hchecked]
  rfl

/-! ## Types -/

/-- How the search for the type of a column ends. A type that is to be reported must have a
report. -/
def typeOf (w : Writer) (c : Column) : Except Failure Text := do
  w.checked
  let type ← w.definition.resolve c
  if c.type.isImprovised then
    let e := Event.improvised w.definition.outputTable c.name c.type.describe type
    let _ ← e.text (fun _ => "") .zero
  return type

theorem perform_resolve_eq (w : Writer) (c : Column) : ∃ w',
    w.perform (resolve c) = (w.typeOf c, w') ∧ w'.definition = w.definition ∧
      (w.checked = .ok () → w'.checked = .ok ()) := by
  obtain ⟨columns, names, infos, hvalidate⟩ := perform_validate_eq w
  unfold resolve typeOf
  rw [perform_bind, hvalidate]
  cases hchecked : w.checked with
  | error e => exact ⟨_, rfl, rfl, by rintro ⟨⟩⟩
  | ok u =>
    dsimp only
    rw [perform_get_bind, perform_lift_bind, ok_bind]
    dsimp only
    cases w.definition.resolve c with
    | error e => exact ⟨_, rfl, rfl, fun _ => rfl⟩
    | ok type =>
      rw [ok_bind]
      cases c.type.isImprovised with
      | false => exact ⟨_, rfl, rfl, fun _ => rfl⟩
      | true =>
        simp only [if_true]
        rw [perform_bind, perform_emit]
        cases Event.text (fun _ => "") .zero
            (.improvised w.definition.outputTable c.name c.type.describe type) with
        | error e => exact ⟨_, rfl, rfl, fun _ => rfl⟩
        | ok text => exact ⟨_, rfl, rfl, fun _ => rfl⟩

/-- Once the overrides were checked the type of a column is the same on all writers of a
definition. -/
theorem typeOf_congr {w w' : Writer} (hdefinition : w.definition = w'.definition)
    (hchecked : w.checked = w'.checked) (c : Column) : w.typeOf c = w'.typeOf c := by
  rw [typeOf, typeOf, hdefinition, hchecked]

/-- A loop over the columns that ends well found the types of all, as the writer finds them that
it started with. -/
theorem perform_columns_ok {columns : List Column} {found : List (Value × Text)} :
    ∀ {w w' : Writer}, w.checked = .ok () →
      w.perform (columns.mapM fun c => do return (c.name, ← resolve c)) = (.ok found, w') →
      w'.definition = w.definition ∧ ∃ typed : List (Column × Text),
        typed.map (·.1) = columns ∧ found = Definition.named typed ∧
          ∀ p ∈ typed, w.typeOf p.1 = .ok p.2 := by
  induction columns generalizing found with
  | nil =>
    intro w w' _ hrun
    obtain ⟨rfl, rfl⟩ := perform_pure_eq_ok hrun
    exact ⟨rfl, [], rfl, rfl, by simp⟩
  | cons c columns ih =>
    intro w w' hchecked hrun
    rw [List.mapM_cons] at hrun
    obtain ⟨first, w₁, hfirst, hrun⟩ := perform_bind_eq_ok_iff.1 hrun
    obtain ⟨type, w₂, hresolve, hname⟩ := perform_bind_eq_ok_iff.1 hfirst
    obtain ⟨rfl, rfl⟩ := perform_pure_eq_ok hname
    obtain ⟨rest, w₃, hrest, hcons⟩ := perform_bind_eq_ok_iff.1 hrun
    obtain ⟨rfl, rfl⟩ := perform_pure_eq_ok hcons
    obtain ⟨w₄, hresolve', hdefinition, hkept⟩ := perform_resolve_eq w c
    rw [hresolve'] at hresolve
    obtain ⟨htype, rfl⟩ := Prod.mk.inj hresolve
    obtain ⟨hdefinition', typed, rfl, rfl, htyped⟩ := ih (hkept hchecked) hrest
    refine ⟨hdefinition'.trans hdefinition, (c, type) :: typed, rfl, rfl, ?_⟩
    refine List.forall_mem_cons.2 ⟨htype, fun p hp => ?_⟩
    rw [typeOf_congr hdefinition.symm (hchecked.trans (hkept hchecked).symm)]
    exact htyped p hp

/-! ## Statements -/

/-- A statement is made of the columns of the writer with the types that it finds for them. -/
theorem perform_createTable_ok {w w' : Writer} {create : Text}
    (hrun : w.perform createTable = (.ok create, w')) :
    ∃ typed : List (Column × Text), w.known = .ok (typed.map (·.1)) ∧
      (∀ p ∈ typed, w.typeOf p.1 = .ok p.2) ∧
      w.definition.createTable (Definition.named typed) = .ok create := by
  obtain ⟨columns, w₁, hdescribe, hrun⟩ := perform_bind_eq_ok_iff.1 hrun
  obtain ⟨hknown, hdefinition₁, hchecked₁⟩ := perform_describe_ok hdescribe
  obtain ⟨_, w₂, hvalidate, hrun⟩ := perform_bind_eq_ok_iff.1 hrun
  obtain ⟨hchecked, hdefinition₂, hchecked₂⟩ := perform_validate_ok hvalidate
  rw [perform_get_bind] at hrun
  obtain ⟨_, w₃, hpartition, hrun⟩ := perform_bind_eq_ok_iff.1 hrun
  obtain ⟨-, rfl⟩ := Prod.mk.inj hpartition
  obtain ⟨found, w₄, hcolumns, htable⟩ := perform_bind_eq_ok_iff.1 hrun
  obtain ⟨hdefinition₄, typed, rfl, rfl, htyped⟩ := perform_columns_ok hchecked₂ hcolumns
  have hdefinition : w₂.definition = w.definition := hdefinition₂.trans hdefinition₁
  have hsame : w₂.checked = w.checked := by rw [hchecked₂, ← hchecked₁, hchecked]
  rw [perform_get_bind, hdefinition₄, hdefinition, perform_lift] at htable
  refine ⟨typed, hknown, fun p hp => ?_, (Prod.mk.inj htable).1⟩
  rw [← typeOf_congr hdefinition hsame]
  exact htyped p hp

/-- The first statement of a request is the one that the writer makes as it is. -/
theorem perform_generate_createTable {w w' : Writer} {found : Statements}
    (hrun : w.perform generate = (.ok found, w')) :
    ∃ w₁ w₂ : Writer, w₁.perform createTable = (.ok found.createTable, w₂) ∧
      w₁.definition = w.definition ∧ w₁.known = w.known ∧ w₁.checked = w.checked := by
  rw [perform_generate] at hrun
  obtain ⟨_, w₁, hstarted, hrun⟩ := perform_bind_eq_ok_iff.1 hrun
  obtain ⟨statements, w₂, hreported, hrun⟩ := perform_bind_eq_ok_iff.1 hrun
  obtain ⟨columns, w₃, -, hrun⟩ := perform_bind_eq_ok_iff.1 hrun
  obtain ⟨_, w₄, -, hrun⟩ := perform_bind_eq_ok_iff.1 hrun
  obtain ⟨rfl, rfl⟩ := perform_pure_eq_ok hrun
  obtain ⟨create, w₅, hcreate, hrun⟩ := perform_bind_eq_ok_iff.1 (perform_reported_ok hreported)
  obtain ⟨load, w₆, -, hrun⟩ := perform_bind_eq_ok_iff.1 hrun
  obtain ⟨rfl, -⟩ := perform_pure_eq_ok hrun
  rw [perform_emit] at hstarted
  split at hstarted
  · obtain ⟨-, rfl⟩ := Prod.mk.inj hstarted
    exact ⟨_, _, hcreate, rfl, rfl, rfl⟩
  · cases (Prod.mk.inj hstarted).1

end HiveTable.Writer
