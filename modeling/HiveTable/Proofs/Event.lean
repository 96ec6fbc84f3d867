import HiveTable.Event

/-!
# Reports that have a text

A report has a text when all its fields have one (`text_of_fields`): its record has texts for
keys, and the record has a text when its values do.
-/

namespace HiveTable

namespace Value

/-- A value that can be written as JSON. -/
def Writable (v : Value) : Prop := ∃ s, v.json = .ok s

theorem writable_text (t : Text) : (Value.text t).Writable := ⟨Json.string t, rfl⟩

theorem writable_float (x : Number.Binary64) : (Value.float x).Writable := ⟨Json.number x, rfl⟩

theorem writable_int {n : Int} (h : Number.isLong n = false) : (Value.int n).Writable :=
  ⟨Number.intText n, by simp [json, Json.int, h]⟩

theorem jsonEntries_ok {entries : List (Value × Value)}
    (h : ∀ e ∈ entries, ∃ key, e.1 = .text key ∧ e.2.Writable) :
    ∃ l, jsonEntries entries = .ok l := by
  induction entries with
  | nil => exact ⟨[], rfl⟩
  | cons e rest ih =>
    obtain ⟨k, v⟩ := e
    obtain ⟨key, rfl, s, hs⟩ := h (k, v) List.mem_cons_self
    obtain ⟨l, hl⟩ := ih fun e he => h e (List.mem_cons_of_mem _ he)
    refine ⟨(Json.string key ++ ": " ++ s) :: l, ?_⟩
    simp [jsonEntries, jsonKey, hs, hl, bind, Except.bind, pure, Except.pure]

end Value

namespace Event

/-- A record whose keys are texts and whose values can be written. -/
def Plain (record : Entries Value) : Prop := ∀ e ∈ record, ∃ key, e.1 = .text key ∧ e.2.Writable

theorem plain_put {record : Entries Value} (h : Plain record) (key : Text) {v : Value}
    (hv : v.Writable) : Plain (record.put (.text key) v) := by
  induction record with
  | nil =>
    intro e he
    obtain rfl := List.mem_singleton.1 he
    exact ⟨key, rfl, hv⟩
  | cons first rest ih =>
    obtain ⟨k, u⟩ := first
    obtain ⟨hfirst, hrest⟩ := List.forall_mem_cons.1 h
    unfold Entries.put
    split
    · obtain ⟨key', hkey', -⟩ := hfirst
      exact List.forall_mem_cons.2 ⟨⟨key', hkey', hv⟩, hrest⟩
    · exact List.forall_mem_cons.2 ⟨hfirst, ih hrest⟩

theorem plain_record (name : Text) {fields : List (String × Value)}
    (h : ∀ f ∈ fields, f.2.Writable) :
    Plain (record (.text name) (fields.map fun f => (Value.text f.1, f.2))) := by
  have hfold : ∀ start : Entries Value, Plain start →
      Plain ((fields.map fun f => (Value.text f.1, f.2)).foldl
        (fun entries e => entries.put e.1 e.2) start) := by
    induction fields with
    | nil => exact fun start hstart => hstart
    | cons f rest ih =>
      intro start hstart
      obtain ⟨hf, hrest⟩ := List.forall_mem_cons.1 h
      exact ih hrest _ (plain_put hstart f.1 hf)
  refine hfold _ fun e he => ?_
  obtain rfl := List.mem_singleton.1 he
  exact ⟨"event_type", rfl, Value.writable_text name⟩

theorem text_of_fields {requestName : Nat → String} {duration : Number.Binary64} {e : Event}
    (h : ∀ f ∈ e.fields requestName duration, f.2.Writable) :
    ∃ s, e.text requestName duration = .ok s := by
  have hplain := plain_record e.name h
  obtain ⟨l, hl⟩ := Value.jsonEntries_ok hplain
  simp only [text, payload, logged, Value.json, hl]
  exact ⟨_, rfl⟩

end Event

end HiveTable
