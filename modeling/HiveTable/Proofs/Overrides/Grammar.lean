import HiveTable.Proofs.Overrides

/-!
# Which texts of overrides can be read

A text of overrides consists of pieces with commas between them. `Says` states what a piece must
be, and `Said` that pieces are what they must be, of columns that differ in more than letter case.
A text that is not blank is read exactly if its pieces are so, to one entry for each piece; any
other text is refused for its first piece with a `Fault` (`parse_grammar`). What a step of the
reader does with one piece is `add_eq_ok` and `add_eq_error`, and the pieces follow by induction.
-/

namespace HiveTable.Overrides

/-! ## One piece -/

/-- A piece is a column and a type around its first equals sign, neither of them blank. They are
read without the blanks at their ends, and then with their escapes resolved. -/
def Says (piece : Text) (p : Text × Text) : Prop :=
  ∃ column type : Text, piece = column ++ .char '=' :: type ∧ .char '=' ∉ column ∧
    column.trim ≠ [] ∧ type.trim ≠ [] ∧
    p = (Text.Percent.decode column.trim, Text.Percent.decode type.trim)

theorem part_eq_nil_iff {t : Text} : part t = [] ↔ t.trim = [] := Text.Percent.decode_eq_nil_iff

theorem pair?_eq_some_iff {piece : Text} {p : Text × Text} :
    pair? piece = some p ↔ Says piece p := by
  constructor
  · intro h
    unfold pair? at h
    split at h
    · rename_i column type hcut
      obtain ⟨rfl, hcolumn⟩ := Text.cut?_eq_some_iff.1 hcut
      split at h
      · cases h
      · rename_i hparts
        simp only [Bool.or_eq_true, List.isEmpty_iff, part_eq_nil_iff, not_or] at hparts
        exact ⟨column, type, rfl, hcolumn, hparts.1, hparts.2, (Option.some.inj h).symm⟩
    · cases h
  · rintro ⟨column, type, rfl, hsign, hcolumn, htype, rfl⟩
    have hcolumn' : part column ≠ [] := part_eq_nil_iff.not.2 hcolumn
    have htype' : part type ≠ [] := part_eq_nil_iff.not.2 htype
    unfold pair?
    rw [Text.cut?_append_cons hsign]
    simp only [List.isEmpty_iff, hcolumn', htype', Bool.or_eq_true, or_self, if_false]
    rfl

theorem pair?_eq_none_iff {piece : Text} : pair? piece = none ↔ ∀ p, ¬ Says piece p := by
  rw [Option.eq_none_iff_forall_ne_some]
  exact forall_congr' fun p => pair?_eq_some_iff.not

theorem Says.unique {piece : Text} {p q : Text × Text} (hp : Says piece p) (hq : Says piece q) :
    p = q :=
  Option.some.inj ((pair?_eq_some_iff.2 hp).symm.trans (pair?_eq_some_iff.2 hq))

/-- Escapes never stand for nothing. -/
theorem Says.nonempty {piece : Text} {p : Text × Text} (h : Says piece p) :
    p.1 ≠ [] ∧ p.2 ≠ [] := by
  obtain ⟨column, type, -, -, hcolumn, htype, rfl⟩ := h
  exact ⟨part_eq_nil_iff.not.2 hcolumn, part_eq_nil_iff.not.2 htype⟩

/-- What is wrong with a piece behind pieces that say the pairs of `before`. -/
inductive Fault (before : List (Text × Text)) (piece : Text) : Refusal → Prop
  | malformed (h : ∀ p, ¬ Says piece p) : Fault before piece (.malformedOverride piece)
  | repeated {p q : Text × Text} (h : Says piece p) (hq : q ∈ before)
      (hsame : Text.fold q.1 = Text.fold p.1) : Fault before piece (.repeatedOverride p.1)

theorem not_contains_of_append {m m' : NameMap Text} {p : Text × Text}
    {rest : List (Text × Text)} (h : m'.toList = m.toList ++ p :: rest) :
    m.contains p.1 = false := by
  have hdistinct := m'.toList_distinct
  rw [h] at hdistinct
  exact NameMap.contains_eq_false_iff.2 fun e he =>
    (List.pairwise_append.1 hdistinct).2.2 e he p List.mem_cons_self

/-- A piece that is read comes to the end of the map. -/
theorem add_eq_ok {m m' : NameMap Text} {piece : Text} :
    add m piece = .ok m' ↔ ∃ p, Says piece p ∧ m'.toList = m.toList ++ [p] := by
  unfold add
  cases hpair : pair? piece with
  | none =>
    refine iff_of_false (by rintro ⟨⟩) ?_
    rintro ⟨p, hp, -⟩
    exact pair?_eq_none_iff.1 hpair p hp
  | some p =>
    obtain ⟨column, type⟩ := p
    have hread := pair?_eq_some_iff.1 hpair
    dsimp only
    cases hcontains : m.contains column with
    | true =>
      refine iff_of_false (by rintro ⟨⟩) ?_
      rintro ⟨q, hq, hlist⟩
      obtain rfl := hread.unique hq
      rw [not_contains_of_append hlist] at hcontains
      cases hcontains
    | false =>
      have hinsert := NameMap.toList_insert_of_absent (v := type) hcontains
      simp only [Bool.false_eq_true, if_false, Except.ok.injEq]
      constructor
      · rintro rfl
        exact ⟨_, hread, hinsert⟩
      · rintro ⟨q, hq, hlist⟩
        obtain rfl := hread.unique hq
        exact NameMap.ext_toList (hinsert.trans hlist.symm)

theorem add_eq_error {m : NameMap Text} {piece : Text} {r : Refusal} :
    add m piece = .error r ↔ Fault m.toList piece r := by
  unfold add
  cases hpair : pair? piece with
  | none =>
    have hnone := pair?_eq_none_iff.1 hpair
    constructor
    · rintro ⟨⟩
      exact .malformed hnone
    · rintro (_ | ⟨hread, -, -⟩)
      · rfl
      · exact absurd hread (hnone _)
  | some p =>
    obtain ⟨column, type⟩ := p
    have hread := pair?_eq_some_iff.1 hpair
    have hcontains : m.contains column = true ↔
        ∃ e ∈ m.toList, Text.fold e.1 = Text.fold column := by
      rw [← Bool.not_eq_false, NameMap.contains_eq_false_iff]
      simp [Listing.sameName]
    dsimp only
    constructor
    · split
      · rename_i hrepeats
        rintro ⟨⟩
        obtain ⟨e, he, hsame⟩ := hcontains.1 hrepeats
        exact .repeated hread he hsame
      · rintro ⟨⟩
    · rintro (hnone | ⟨hread', he, hsame⟩)
      · exact absurd hread (hnone _)
      · obtain rfl := hread.unique hread'
        rw [if_pos (hcontains.2 ⟨_, he, hsame⟩)]

/-! ## All pieces -/

/-- Pieces say pairs, one each and in order, and no two of them a type of the same column. -/
structure Said (pieces : List Text) (pairs : List (Text × Text)) : Prop where
  each : List.Forall₂ Says pieces pairs
  columns : pairs.Pairwise fun p q => Text.fold p.1 ≠ Text.fold q.1

/-- Nothing that is said is empty. -/
theorem Said.nonempty {pieces : List Text} {pairs : List (Text × Text)} (h : Said pieces pairs) :
    ∀ e ∈ pairs, e.1 ≠ [] ∧ e.2 ≠ [] := by
  induction h.each with
  | nil => simp
  | cons hp _ ih =>
    exact List.forall_mem_cons.2 ⟨hp.nonempty, ih ⟨‹_›, (List.pairwise_cons.1 h.columns).2⟩⟩

theorem toList_columns (m : NameMap Text) :
    m.toList.Pairwise fun p q => Text.fold p.1 ≠ Text.fold q.1 :=
  m.toList_distinct.imp fun h => by simpa [Listing.sameName] using h

theorem foldlM_add_eq_ok {pieces : List Text} {m m' : NameMap Text} :
    pieces.foldlM add m = .ok m' ↔
      ∃ pairs, List.Forall₂ Says pieces pairs ∧ m'.toList = m.toList ++ pairs := by
  induction pieces generalizing m with
  | nil =>
    simp only [List.forall₂_nil_left_iff, exists_eq_left, List.append_nil]
    constructor
    · intro h
      rw [Except.ok.inj h]
    · intro h
      exact congrArg Except.ok (NameMap.ext_toList h.symm)
  | cons piece rest ih =>
    rw [List.foldlM_cons, bind_eq_ok]
    constructor
    · rintro ⟨next, hnext, hrest⟩
      obtain ⟨p, hp, hlist⟩ := add_eq_ok.1 hnext
      obtain ⟨pairs, hpairs, hlist'⟩ := ih.1 hrest
      exact ⟨p :: pairs, .cons hp hpairs, by rw [hlist', hlist, List.append_assoc]; rfl⟩
    · rintro ⟨_, hall, hlist⟩
      obtain ⟨p, pairs, hp, hpairs, rfl⟩ := List.forall₂_cons_left_iff.1 hall
      have hinsert := NameMap.toList_insert_of_absent (v := p.2) (not_contains_of_append hlist)
      refine ⟨m.insert p.1 p.2, add_eq_ok.2 ⟨p, hp, hinsert⟩, ih.2 ⟨pairs, hpairs, ?_⟩⟩
      rw [hinsert, hlist, List.append_assoc]
      rfl

theorem foldlM_add_iff_said {pieces : List Text} {m : NameMap Text} :
    pieces.foldlM add ∅ = .ok m ↔ Said pieces m.toList := by
  rw [foldlM_add_eq_ok]
  constructor
  · rintro ⟨pairs, hpairs, hlist⟩
    exact ⟨by rwa [hlist], toList_columns m⟩
  · exact fun h => ⟨m.toList, h.each, rfl⟩

/-- Columns that differ in more than letter case make a map. -/
theorem exists_toList_eq {pairs : List (Text × Text)}
    (h : pairs.Pairwise fun p q => Text.fold p.1 ≠ Text.fold q.1) :
    ∃ m : NameMap Text, m.toList = pairs := by
  have hdistinct : Listing.Distinct pairs := h.imp fun hne => by simpa [Listing.sameName] using hne
  refine ⟨.ofList pairs, ?_⟩
  rw [NameMap.ofList, NameMap.toList_insertAll ∅ pairs hdistinct]
  rfl

theorem parse_eq_ok_iff_said {t : Text} (h : t.isBlankText = false) {m : NameMap Text} :
    parse t = .ok m ↔ Said (t.splitOn (.char ',')) m.toList := by
  rw [parse, if_neg (by simp [h]), foldlM_add_iff_said]

/-- No type that is read is empty. -/
theorem ofValue_nonempty {v : Value} {m : NameMap Text} (h : ofValue v = .ok m) :
    ∀ e ∈ m.toList, e.2 ≠ [] := by
  have hempty : ∀ e ∈ (∅ : NameMap Text).toList, e.2 ≠ [] := by
    intro e he
    cases he
  unfold ofValue at h
  split at h
  · obtain rfl := Except.ok.inj h
    exact hempty
  · rename_i t
    have hread := mapError_eq_ok.1 h
    cases hblank : t.isBlankText with
    | true =>
      rw [parse, if_pos hblank] at hread
      obtain rfl := Except.ok.inj hread
      exact hempty
    | false => exact fun e he => (((parse_eq_ok_iff_said hblank).1 hread).nonempty e he).2
  · cases h

/-- A blank text has no overrides. Any other text is read exactly if each of its pieces is a column
and a type and no two columns differ in letter case only; then there is one entry for each piece,
in order, and nothing in it is empty. A text that is not read is refused for the first piece that
is malformed or repeats a column. -/
theorem parse_grammar (t : Text) :
    (t.isBlankText = true → parse t = .ok ∅) ∧
    (t.isBlankText = false →
      let pieces := t.splitOn (.char ',')
      ((∃ m, parse t = .ok m) ↔ ∃ pairs, Said pieces pairs) ∧
      (∀ m, parse t = .ok m ↔ Said pieces m.toList) ∧
      (∀ m, parse t = .ok m → ∀ e ∈ m.toList, e.1 ≠ [] ∧ e.2 ≠ []) ∧
      (∀ r, parse t = .error r ↔ ∃ before piece rest pairs,
        pieces = before ++ piece :: rest ∧ Said before pairs ∧ Fault pairs piece r) ∧
      ∀ r, parse t = .error r → r.label = "ConfigurationError") := by
  refine ⟨fun hblank => by rw [parse, if_pos hblank], fun hblank => ?_⟩
  have hparse : parse t = (t.splitOn (.char ',')).foldlM add ∅ := by rw [parse, hblank]; rfl
  intro pieces
  have hok : ∀ m, parse t = .ok m ↔ Said pieces m.toList := fun m => parse_eq_ok_iff_said hblank
  have herror : ∀ r, parse t = .error r ↔ ∃ before piece rest pairs,
      pieces = before ++ piece :: rest ∧ Said before pairs ∧ Fault pairs piece r := by
    intro r
    rw [hparse, foldlM_eq_error]
    constructor
    · rintro ⟨before, piece, rest, m, hpieces, hbefore, hfault⟩
      exact ⟨before, piece, rest, m.toList, hpieces, foldlM_add_iff_said.1 hbefore,
        add_eq_error.1 hfault⟩
    · rintro ⟨before, piece, rest, pairs, hpieces, hbefore, hfault⟩
      obtain ⟨m, rfl⟩ := exists_toList_eq hbefore.columns
      exact ⟨before, piece, rest, m, hpieces, foldlM_add_iff_said.2 hbefore,
        add_eq_error.2 hfault⟩
  refine ⟨⟨?_, ?_⟩, hok, fun m hm => ((hok m).1 hm).nonempty, herror, fun r hr => ?_⟩
  · rintro ⟨m, hm⟩
    exact ⟨m.toList, (hok m).1 hm⟩
  · rintro ⟨pairs, hpairs⟩
    obtain ⟨m, rfl⟩ := exists_toList_eq hpairs.columns
    exact ⟨m, (hok m).2 hpairs⟩
  · obtain ⟨before, piece, rest, pairs, -, -, hfault⟩ := (herror r).1 hr
    cases hfault <;> rfl

end HiveTable.Overrides
