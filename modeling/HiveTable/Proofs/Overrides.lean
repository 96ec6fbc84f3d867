import HiveTable.Overrides
import HiveTable.Proofs.NameMap.Listing
import HiveTable.Proofs.Success
import HiveTable.Proofs.Text.Blank
import HiveTable.Proofs.Text.Percent

/-!
# Overrides that are written down are read back

`format` writes pairs of a column and a type as one text, and `parse` reads from it a map with
exactly these pairs, in order (`parse_format`): encoding leaves no comma, equals sign or blank
in a part, so splitting, cutting and trimming find the parts as they were written, and columns
that differ in more than letter case are never taken for a repetition.
-/

namespace HiveTable

namespace Text

theorem ofChars_intercalate (sep : List Char) (parts : List (List Char)) :
    ofChars (List.intercalate sep parts) =
      List.intercalate (ofChars sep) (parts.map ofChars) := by
  induction parts with
  | nil => rfl
  | cons part rest ih =>
    cases rest with
    | nil => simp [List.intercalate_singleton]
    | cons next rest =>
      rw [List.map_cons, List.map_cons, List.intercalate_cons_cons, List.intercalate_cons_cons,
        ← List.map_cons, ← ih]
      simp [ofChars]

end Text

namespace Overrides

/-! ## One piece -/

/-- What `format` writes for one pair. -/
def piece (p : String × String) : Text :=
  Text.ofChars (Text.Percent.encode p.1.toList) ++
    .char '=' :: Text.ofChars (Text.Percent.encode p.2.toList)

theorem ofString_format (pairs : List (String × String)) :
    Text.ofString (format pairs) = List.intercalate [.char ','] (pairs.map piece) := by
  rw [Text.ofString, format, String.toList_ofList, Text.ofChars_intercalate, List.map_map]
  congr 1
  refine List.map_congr_left fun p _ => ?_
  simp [piece, Text.ofChars]

theorem comma_not_mem_piece (p : String × String) : .char ',' ∉ piece p := by
  intro h
  rcases List.mem_append.1 h with h | h
  · obtain ⟨c, hc, heq⟩ := List.mem_map.1 h
    exact (Text.Percent.plain_of_mem_encode hc).1 (Letter.char.inj heq)
  · rcases List.mem_cons.1 h with heq | h
    · exact absurd heq (by decide)
    · obtain ⟨c, hc, heq⟩ := List.mem_map.1 h
      exact (Text.Percent.plain_of_mem_encode hc).1 (Letter.char.inj heq)

theorem equals_not_mem_encode (s : List Char) :
    .char '=' ∉ Text.ofChars (Text.Percent.encode s) := by
  intro h
  obtain ⟨c, hc, heq⟩ := List.mem_map.1 h
  exact (Text.Percent.plain_of_mem_encode hc).2.1 (Letter.char.inj heq)

theorem part_encode (s : String) :
    part (Text.ofChars (Text.Percent.encode s.toList)) = Text.ofString s := by
  have hplain : ∀ l ∈ Text.ofChars (Text.Percent.encode s.toList), Text.isBlank l = false := by
    intro l hl
    obtain ⟨c, hc, rfl⟩ := List.mem_map.1 hl
    exact (Text.Percent.plain_of_mem_encode hc).2.2
  rw [part, Text.trim_eq_self hplain]
  exact Text.Percent.decode_encode s.toList

theorem isEmpty_ofString {s : String} (h : s ≠ "") : (Text.ofString s).isEmpty = false := by
  simpa [Text.ofString, Text.ofChars] using h

theorem pair?_piece {p : String × String} (hcolumn : p.1 ≠ "") (htype : p.2 ≠ "") :
    pair? (piece p) = some (Text.ofString p.1, Text.ofString p.2) := by
  unfold pair? piece
  rw [Text.cut?_append_cons (equals_not_mem_encode _)]
  simp [part_encode, isEmpty_ofString hcolumn, isEmpty_ofString htype]

/-! ## All pieces -/

/-- The entries that pairs of strings stand for. -/
def listing (pairs : List (String × String)) : Listing Text :=
  pairs.map fun p => (Text.ofString p.1, Text.ofString p.2)

/-- The pieces come to the end of the map one by one, since no column is there already. -/
theorem foldlM_add {pairs : List (String × String)} (hparts : ∀ p ∈ pairs, p.1 ≠ "" ∧ p.2 ≠ "")
    (m : NameMap Text) (h : Listing.Distinct (m.toList ++ listing pairs)) :
    ∃ m' : NameMap Text, (pairs.map piece).foldlM add m = .ok m' ∧
      m'.toList = m.toList ++ listing pairs := by
  induction pairs generalizing m with
  | nil => exact ⟨m, rfl, by simp [listing]⟩
  | cons p rest ih =>
    obtain ⟨hcolumn, htype⟩ := hparts p List.mem_cons_self
    have habsent : m.contains (Text.ofString p.1) = false :=
      NameMap.contains_eq_false_iff.2 fun e he =>
        (List.pairwise_append.1 h).2.2 e he _ List.mem_cons_self
    have hadd : add m (piece p) = .ok (m.insert (Text.ofString p.1) (Text.ofString p.2)) := by
      simp [add, pair?_piece hcolumn htype, habsent]
    have hinsert := NameMap.toList_insert_of_absent (v := Text.ofString p.2) habsent
    obtain ⟨m', hfold, hlist⟩ := ih (fun q hq => hparts q (List.mem_cons_of_mem p hq))
      (m.insert (Text.ofString p.1) (Text.ofString p.2))
      (by rw [hinsert, List.append_assoc]; exact h)
    refine ⟨m', ?_, by rw [hlist, hinsert, List.append_assoc]; rfl⟩
    rw [List.map_cons, List.foldlM_cons, hadd]
    exact hfold

theorem isBlankText_format (p : String × String) (rest : List (String × String)) :
    Text.isBlankText (Text.ofString (format (p :: rest))) = false := by
  have hmem : .char '=' ∈ Text.ofString (format (p :: rest)) := by
    rw [ofString_format, List.map_cons]
    cases rest with
    | nil => simp [List.intercalate_singleton, piece]
    | cons q rest => simp [List.intercalate_cons_cons, piece]
  exact Text.isBlankText_eq_false hmem (by decide)

/-- What was written down is read back: the same pairs in the same order, with the spelling
they had. -/
theorem parse_format {pairs : List (String × String)} (hparts : ∀ p ∈ pairs, p.1 ≠ "" ∧ p.2 ≠ "")
    (hcolumns : pairs.Pairwise fun p q => Text.fold p.1 ≠ Text.fold q.1) :
    ∃ m, parse (Text.ofString (format pairs)) = .ok m ∧
      m.toList = pairs.map fun p => (Text.ofString p.1, Text.ofString p.2) := by
  have hdistinct : Listing.Distinct (listing pairs) :=
    List.pairwise_map.2 (hcolumns.imp fun h => by simpa [Listing.sameName] using h)
  cases pairs with
  | nil => exact ⟨∅, rfl, rfl⟩
  | cons p rest =>
    obtain ⟨m, hfold, hlist⟩ := foldlM_add hparts ∅ (by simpa [NameMap.toList_empty] using hdistinct)
    refine ⟨m, ?_, hlist⟩
    have hsplit : (Text.ofString (format (p :: rest))).splitOn (.char ',') =
        (p :: rest).map piece := by
      rw [ofString_format]
      refine List.splitOn_intercalate _ ?_ (by simp)
      rintro _ hx
      obtain ⟨q, -, rfl⟩ := List.mem_map.1 hx
      exact comma_not_mem_piece q
    rw [parse, isBlankText_format, if_neg (by decide), hsplit]
    exact hfold

/-- Separators, blanks and letters that are not ASCII come back as they were. -/
theorem parse_format_separators :
    ∃ m, parse (Text.ofString (format [(" a,b", "map<int, string>"), ("Größe=", "100%")])) = .ok m ∧
      m.toList = [(Text.ofString " a,b", Text.ofString "map<int, string>"),
        (Text.ofString "Größe=", Text.ofString "100%")] :=
  parse_format (by decide) (by decide)

end Overrides

end HiveTable
