import HiveTable.Proofs.Writer.Knowledge

/-!
# What a writer keeps agrees with its definition

A writer is `Coherent` when the columns and the check that it keeps are what its definition and the
types set by hand yield: then it knows what is known when everything is found out anew. An action
that `Follows` a report ends as the report on every coherent writer and leaves it coherent, and what
an action yields it also follows (`Yields.follows`).
-/

namespace HiveTable.Writer
variable {α : Type} {d : Definition} {types : Option (NameMap ColumnInfo)}

/-! ## Coherent writers -/

/-- What is kept is what the definition yields. -/
structure Coherent (d : Definition) (types : Option (NameMap ColumnInfo)) (w : Writer) :
    Prop where
  sameDefinition : w.definition = d
  sameTypes : w.types = types
  columns : ∀ columns, w.columns = some columns → d.columns types = .ok columns
  validated : w.validated = true → d.validate types = .ok ()

theorem coherent_new (d : Definition) : Coherent d none { definition := d } :=
  ⟨rfl, rfl, by simp, by simp⟩

/-- From a coherent writer to one: events are added, and they are those of the report but for
the numbers of requests. -/
structure Advance (d : Definition) (types : Option (NameMap ColumnInfo)) (w : Writer)
    (events : List Event) (w' : Writer) : Prop where
  coherent : Coherent d types w'
  added : ∃ new, w'.events = w.events ++ new ∧ new.map Event.unnumbered = events

/-- An action ends as its report on every coherent writer. -/
def Follows (d : Definition) (types : Option (NameMap ColumnInfo)) (a : Action α)
    (r : Report α) : Prop :=
  ∀ w, Coherent d types w → ∃ w', w.perform a = (r.result, w') ∧ Advance d types w r.events w'

theorem Advance.refl {w : Writer} (h : Coherent d types w) : Advance d types w [] w :=
  ⟨h, [], by simp, rfl⟩

/-! ## Knowledge -/

theorem Coherent.knowledge {w : Writer} (h : Coherent d types w) :
    w.knowledge = d.knowledge types := by
  obtain ⟨rfl, rfl, hcolumns, hvalidated⟩ := h
  have hknown : w.known = w.definition.columns w.types := by
    unfold known
    split
    · rename_i columns hkept
      exact (hcolumns columns hkept).symm
    · rfl
  have hchecked : w.checked = w.definition.validate w.types := by
    unfold checked
    split
    · rename_i hkept
      exact (hvalidated hkept).symm
    · rw [hknown]
      rfl
  rw [Writer.knowledge, hknown, hchecked]
  rfl

theorem Coherent.of_knowledge {w : Writer} (h : w.knowledge = d.knowledge types)
    (htypes : w.types = types) : Coherent d types w where
  sameDefinition := definition_of_knowledge h
  sameTypes := htypes
  columns columns hkept := by
    have hknown : w.known = .ok columns := by rw [known, hkept]
    exact (congrArg Knowledge.columns h).symm.trans hknown
  validated hkept := by
    have hchecked : w.checked = .ok () := by rw [checked, hkept]; rfl
    exact (checked_of_knowledge h).symm.trans hchecked

/-! ## The actions -/

theorem Yields.follows {a : Action α} {r : Report α} (h : Yields (d.knowledge types) a r) :
    Follows d types a r := by
  intro w hw
  obtain ⟨w', hrun, hadds⟩ := h w hw.knowledge
  exact ⟨w', hrun, .of_knowledge (hadds.knowledge.trans hw.knowledge)
    (hadds.types.trans hw.sameTypes), hadds.added⟩

theorem columns_of_schema {names : List Value} {info : NameMap ColumnInfo}
    (h : d.schema types = .ok (names, info)) : d.columns types = describeAll names info := by
  rw [Definition.columns, h]
  rfl

theorem validate_of_columns {columns : List Column} (h : d.columns types = .ok columns) :
    d.validate types = checkOverrides d.overrides (columns.map (·.name)) := by
  rw [Definition.validate, h]
  rfl

theorem describe_follows : Follows d types describe (liftM (d.columns types)) :=
  describe_yields.follows

theorem statements_follows : Follows d types statements (d.statementsReport types) := by
  rw [Definition.statementsReport_eq]
  exact statements_yields.follows

theorem generate_follows : Follows d types generate (d.generateReport types) := by
  rw [Definition.generateReport_eq]
  exact generate_yields.follows

end HiveTable.Writer
