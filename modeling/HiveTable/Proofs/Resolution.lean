import HiveTable.Resolution
import HiveTable.Proofs.NameMap.Built

/-!
# Overrides and the columns they are for

The check of the overrides finds the first one that is for none of the columns
(`checkOverrides_text`), and the type of a column is its override if it has one
(`Resolution.ofColumn_text`).
-/

namespace HiveTable

/-- The first override that is for none of the columns is refused. -/
theorem checkOverrides_text {α : Type} (overrides : NameMap α) (names : List Text) :
    checkOverrides overrides (names.map .text) =
      (overrides.names.find? fun x => !names.any (Listing.sameName · x)).elim (.ok ())
        fun x => .error (.refused (.unresolvedOverride x)) := by
  obtain ⟨kept, hpairs, -, hkeys⟩ := Entries.ofPairs_text (names.map fun n => (n, ()))
  have hall : ((names.map Value.text).map fun n => (n, ())).all (·.1.isKey) = true := by
    simp [Value.isKey]
  have hgathered : Entries.ofPairs? ((names.map Value.text).map fun n => (n, ())) =
      some (kept.map fun p => (Value.text p.1, p.2)) := by
    rw [Entries.ofPairs?, if_pos hall, ← hpairs, List.map_map, List.map_map]
    rfl
  -- A name that comes again is gathered once, and is found once as well as twice.
  have hcontains : ∀ x, (NameMap.ofList kept).contains x = names.any (Listing.sameName · x) := by
    intro x
    have hkept : (kept.any fun p => Listing.sameName p.1 x) =
        (kept.map (·.1)).any (Listing.sameName · x) := by rw [List.any_map]; rfl
    rw [NameMap.contains_ofList, hkept, Bool.eq_iff_iff, List.any_eq_true, List.any_eq_true]
    simp only [hkeys, List.map_map, Function.comp_def, List.map_id']
  unfold checkOverrides
  simp only [hgathered, NameMap.ofEntries_ofPairs, hcontains, bind, Except.bind]
  cases overrides.names.find? fun x => !names.any (Listing.sameName · x) <;> rfl

/-- An override that was read can be used, so it is the type of its column. -/
theorem Resolution.ofColumn_text {overrides : NameMap Text} {c : Column} {name : Text}
    (hname : c.name = .text name) (h : ∀ e ∈ overrides.toList, e.2 ≠ []) :
    Resolution.ofColumn (!·.isEmpty) overrides c =
      match overrides.get? name, c.hiveType? with
      | some given, _ => .ok (.override given)
      | none, some type => .ok (.standard type)
      | none, none => .error (Refusal.unsupportedType c.name c.type.asValue).failure := by
  have husable : (overrides.get? name).filter (!·.isEmpty) = overrides.get? name := by
    cases hfound : overrides.get? name with
    | none => rfl
    | some given =>
      obtain ⟨e, he, rfl⟩ := NameMap.exists_mem_of_get? hfound
      simp [Option.filter, h e he]
  unfold Resolution.ofColumn
  rw [hname]
  simp only [NameMap.nameOf, bind, Except.bind, husable]
  cases overrides.get? name with
  | some given => rfl
  | none => cases c.hiveType? <;> rfl

end HiveTable
