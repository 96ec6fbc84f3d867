import HiveTable.Codec
import HiveTable.Proofs.Path

/-!
# Codecs and their classes

A codec is found by its short name, or else by the exact name of its class
(`name_of_ofText?`). Whether files of it are indexed is asked of the same text, but there the class
name may have blanks around it. No text is taken for a codec that shows this difference:
`isIndexed_of_ofText?`.
-/

namespace HiveTable.Codec

theorem mem_all (c : Codec) : c ∈ all := by
  cases c <;> decide

/-- A codec is found by one of its two names. -/
theorem name_of_ofText? {t : Text} {c : Codec} (h : ofText? t = some c) :
    t.trim.lower = Text.ofString c.shortName ∨
      ∃ name, c.className? = some name ∧ t = Text.ofString name := by
  rcases Option.or_eq_some_iff.1 h with hshort | ⟨-, hclass⟩
  · have hfound := List.find?_some hshort
    exact .inl (eq_of_beq hfound)
  · have hfound := List.find?_some hclass
    obtain ⟨name, hname, heq⟩ := (Option.any_eq_true _ _).1 hfound
    exact .inr ⟨name, hname, eq_of_beq heq⟩

theorem shortName_injective {c c' : Codec} (h : c.shortName = c'.shortName) : c = c' := by
  revert h
  cases c <;> cases c' <;> decide

/-- No two codecs have one class, or none. -/
theorem className?_injective {c c' : Codec} (h : c.className? = c'.className?) : c = c' := by
  revert h
  cases c <;> cases c' <;> decide

/-- The class name of a codec is not mistaken for a short name. -/
theorem lower_className {c c' : Codec} {name : String} (h : c.className? = some name) :
    (Text.ofString name).lower ≠ Text.ofString c'.shortName := by
  have hnames : ∀ c : Codec, c.className?.all (fun name =>
      !(all.map (Text.ofString ·.shortName)).contains (Text.ofString name).lower) = true := by
    intro c
    cases c <;> decide +kernel
  have hname := hnames c
  rw [h, Option.all_some, Bool.not_eq_true', List.contains_eq_mem, decide_eq_false_iff_not] at hname
  intro heq
  exact hname (heq ▸ List.mem_map_of_mem (mem_all c'))

/-- Class names have no blanks. -/
theorem trim_className {c : Codec} {name : String} (h : c.className? = some name) :
    (Text.ofString name).trim = Text.ofString name := by
  have hnames : ∀ c : Codec, c.className?.all (fun name =>
      (Text.ofString name).trim == Text.ofString name) = true := by
    intro c
    cases c <;> decide +kernel
  have hname := hnames c
  rw [h, Option.all_some] at hname
  exact eq_of_beq hname

/-- A text that is taken for a codec asks for an index just if the codec is the one with an index,
in whatever way the text spells it. -/
theorem isIndexed_of_ofText? {t : Text} {c : Codec} (hgiven : t ≠ []) (h : ofText? t = some c) :
    isIndexed (.text t) = .ok (decide (c.className? = lzop.className?)) := by
  obtain ⟨name, hlzop⟩ : ∃ name, lzop.className? = some name := ⟨_, rfl⟩
  have hindexed : isIndexed (.text t) =
      .ok (t.trim.lower == Text.ofString lzop.shortName || t.trim == Text.ofString name) := by
    unfold isIndexed
    rw [if_neg (by simpa [Value.isGiven_text] using hgiven), hlzop]
    rfl
  rw [hindexed]
  refine congrArg Except.ok (Bool.eq_iff_iff.2 ?_)
  rw [Bool.or_eq_true, beq_iff_eq, beq_iff_eq, decide_eq_true_iff]
  rcases name_of_ofText? h with hshort | ⟨name', hname', rfl⟩
  · -- A trimmed text that is in lower case a short name is no class name.
    have hnot : t.trim ≠ Text.ofString name := by
      intro heq
      rw [heq] at hshort
      exact lower_className hlzop hshort
    rw [or_iff_left hnot, hshort, Text.ofString_injective.eq_iff]
    exact ⟨fun h => congrArg className? (shortName_injective h),
      fun h => congrArg shortName (className?_injective h)⟩
  · rw [trim_className hname', or_iff_right (lower_className hname'),
      Text.ofString_injective.eq_iff, hname', hlzop, Option.some.injEq]

theorem ofValue_eq_ok {v : Value} {c : Codec} :
    ofValue v = .ok c ↔ ∃ t : Text, v = .text t ∧ t ≠ [] ∧ ofText? t = some c := by
  unfold ofValue
  constructor
  · intro h
    split at h
    · cases h
    rename_i hgiven
    split at h
    · rename_i t
      split at h
      · rename_i found hfound
        obtain rfl := Except.ok.inj h
        exact ⟨t, rfl, by simpa [Value.isGiven_text] using hgiven, hfound⟩
      · cases h
    · cases h
  · rintro ⟨t, rfl, hgiven, hfound⟩
    rw [if_neg (by simpa [Value.isGiven_text] using hgiven)]
    dsimp only
    rw [hfound]

/-- The same of a setting that is accepted. -/
theorem isIndexed_of_ofValue {v : Value} {c : Codec} (h : ofValue v = .ok c) :
    isIndexed v = .ok (decide (c.className? = lzop.className?)) := by
  obtain ⟨t, rfl, hgiven, hfound⟩ := ofValue_eq_ok.1 h
  exact isIndexed_of_ofText? hgiven hfound

end HiveTable.Codec
