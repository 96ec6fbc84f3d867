import Mathlib.Data.List.DropRight
import HiveTable.Text.Blank

/-!
# Texts without blanks at their ends

Blanks around a text change nothing of what is left of it when it is trimmed
(`trim_blanks_append_blanks`), and a blank between letters that are none stays
(`mem_trim_of_between`).
-/

namespace HiveTable.Text

/-- Nothing but blanks. -/
def Blanks (t : Text) : Prop := ∀ l ∈ t, isBlank l = true

theorem trim_eq_self {t : Text} (h : ∀ l ∈ t, isBlank l = false) : t.trim = t := by
  have keep : ∀ s : Text, (∀ l ∈ s, isBlank l = false) → s.dropWhile isBlank = s := by
    intro s hs
    cases s with
    | nil => rfl
    | cons l rest => simp [List.dropWhile, hs l List.mem_cons_self]
  rw [trim, keep t h, keep t.reverse fun l hl => h l (List.mem_reverse.1 hl), List.reverse_reverse]

theorem isBlankText_eq_false {t : Text} {l : Letter} (hl : l ∈ t) (hb : isBlank l = false) :
    t.isBlankText = false := by
  have hdrop : l ∈ t.dropWhile isBlank := by
    rw [← List.takeWhile_append_dropWhile (p := isBlank) (l := t)] at hl
    rcases List.mem_append.1 hl with h | h
    · exact absurd (List.mem_takeWhile_imp h) (by simp [hb])
    · exact h
  have hne : (t.dropWhile isBlank).reverse.dropWhile isBlank ≠ [] := by
    intro h
    have hall := List.dropWhile_eq_nil_iff.1 h l (List.mem_reverse.2 hdrop)
    exact absurd hall (by simp [hb])
  simpa [isBlankText, trim] using hne

theorem trim_blanks_append {before : Text} (hbefore : Blanks before) (t : Text) :
    trim (before ++ t) = trim t := by
  rw [trim, trim, List.dropWhile_append_of_pos hbefore]

theorem trim_append_blanks {after : Text} (hafter : Blanks after) (t : Text) :
    trim (t ++ after) = trim t := by
  have hdropped : after.dropWhile isBlank = [] := List.dropWhile_eq_nil_iff.2 hafter
  rw [trim, trim, List.dropWhile_append]
  split
  · rename_i hall
    rw [hdropped, List.isEmpty_iff.1 hall]
  · rw [List.reverse_append, List.dropWhile_append_of_pos fun l hl => hafter l (by simpa using hl)]

theorem trim_blanks_append_blanks {before after : Text} (hbefore : Blanks before)
    (hafter : Blanks after) (t : Text) : trim (before ++ t ++ after) = trim t := by
  rw [trim_append_blanks hafter, trim_blanks_append hbefore]

theorem mem_trim_of_between {before after : Text} (l : Letter) (hbefore : ¬ Blanks before)
    (hafter : ¬ Blanks after) : l ∈ trim (before ++ l :: after) := by
  have hdrop : ∀ {s : Text} (rest : Text), ¬ Blanks s →
      (s ++ rest).dropWhile isBlank = s.dropWhile isBlank ++ rest := by
    intro s rest hs
    rw [List.dropWhile_append, if_neg]
    rwa [List.isEmpty_iff, List.dropWhile_eq_nil_iff]
  have hreverse : ¬ Blanks after.reverse := by simpa [Blanks] using hafter
  rw [trim, hdrop _ hbefore, List.reverse_append, List.reverse_cons, List.append_assoc,
    hdrop _ hreverse]
  simp

end HiveTable.Text
