import HiveTable.Proofs.Number.Decimal
import HiveTable.Proofs.Writer.ColumnClause
import HiveTable.Proofs.Writer.GivenTypes

/-!
# Columns read back from a statement

Names of columns stand between backquotes as they are, and no Hive type has a backquote in it. So
where no name has one either, the backquotes of a column clause are those around its names, and the
clause is that of one list of names and types alone (`listed_quoted_injective`). Two writers that
differ in nothing but the types that were set by hand make different statements then, unless their
columns have the same names and types (`same_columns_of_createTable`). A backquote in a name can
stand for the end of a column and the start of the next one (`createTable_backquote`).
-/

namespace HiveTable
open Number

namespace Text

/-- The letter around the names of columns. -/
def backquote : Letter := .char '\x60'

/-- What stands in front of the first separator, and behind it. -/
theorem append_cons_injective {sep : Letter} {a b r s : Text} (ha : sep ∉ a) (hb : sep ∉ b)
    (h : a ++ sep :: r = b ++ sep :: s) : a = b ∧ r = s := by
  have hcut := congrArg (cut? sep) h
  rw [cut?_append_cons ha, cut?_append_cons hb] at hcut
  simpa using hcut

/-- A name and a type, as they stand in a statement. -/
def quotedColumn (p : Text × Text) : Text := "`" ++ p.1 ++ "` " ++ p.2

/-- Columns that stand behind others. -/
def following (l : List (Text × Text)) : Text :=
  l.flatMap fun p => .char ',' :: .char ' ' :: quotedColumn p

theorem following_cons (p : Text × Text) (rest : List (Text × Text)) :
    following (p :: rest) = .char ',' :: .char ' ' :: backquote ::
      (p.1 ++ backquote :: .char ' ' :: (p.2 ++ following rest)) := by
  rw [following, List.flatMap_cons, quotedColumn]
  simp only [List.append_assoc, List.cons_append]
  rfl

theorem listed_quoted_cons (p : Text × Text) (rest : List (Text × Text)) :
    listed ((p :: rest).map quotedColumn) = quotedColumn p ++ following rest := by
  induction rest generalizing p with
  | nil => simp [listed, List.intercalate_singleton, following]
  | cons q rest ih =>
    have hrest := ih q
    rw [listed, List.map_cons] at hrest
    rw [listed, List.map_cons, List.map_cons, List.intercalate_cons_cons, hrest, List.append_assoc]
    rfl

/-- A text without backquotes ends where the next column begins. -/
theorem append_following_injective {a b : Text} (ha : backquote ∉ a) (hb : backquote ∉ b)
    {l l' : List (Text × Text)} (h : a ++ following l = b ++ following l') :
    a = b ∧ following l = following l' := by
  have hends : ∀ {t : Text}, backquote ∉ t → backquote ∉ t ++ [.char ',', .char ' '] := by
    intro t ht hmem
    rcases List.mem_append.1 hmem with hmem | hmem
    · exact ht hmem
    · exact absurd hmem (by decide)
  have hlonger : ∀ {s t : Text} (p : Text × Text) (rest : List (Text × Text)),
      s = t ++ following (p :: rest) → backquote ∈ s := by
    rintro s t p rest rfl
    simp [following_cons]
  cases l with
  | nil =>
    cases l' with
    | nil => exact ⟨by simpa [following] using h, rfl⟩
    | cons q rest' => exact absurd (hlonger q rest' (by simpa [following] using h)) ha
  | cons p rest =>
    cases l' with
    | nil => exact absurd (hlonger p rest (by simpa [following] using h.symm)) hb
    | cons q rest' =>
      have hnext : (a ++ [.char ',', .char ' ']) ++ backquote ::
            (p.1 ++ backquote :: .char ' ' :: (p.2 ++ following rest)) =
          (b ++ [.char ',', .char ' ']) ++ backquote ::
            (q.1 ++ backquote :: .char ' ' :: (q.2 ++ following rest')) := by
        rw [following_cons, following_cons] at h
        simpa using h
      obtain ⟨hab, hbehind⟩ := append_cons_injective (hends ha) (hends hb) hnext
      rw [following_cons, following_cons, hbehind]
      exact ⟨List.append_cancel_right hab, rfl⟩

theorem following_injective {l l' : List (Text × Text)}
    (h : ∀ p ∈ l, backquote ∉ p.1 ∧ backquote ∉ p.2)
    (h' : ∀ p ∈ l', backquote ∉ p.1 ∧ backquote ∉ p.2)
    (heq : following l = following l') : l = l' := by
  induction l generalizing l' with
  | nil =>
    cases l' with
    | nil => rfl
    | cons q rest' => cases heq
  | cons p rest ih =>
    cases l' with
    | nil => cases heq
    | cons q rest' =>
      obtain ⟨⟨hname, htype⟩, hrest⟩ := List.forall_mem_cons.1 h
      obtain ⟨⟨hname', htype'⟩, hrest'⟩ := List.forall_mem_cons.1 h'
      rw [following_cons, following_cons] at heq
      injection heq with _ heq
      injection heq with _ heq
      injection heq with _ heq
      obtain ⟨hnames, hbehind⟩ := append_cons_injective hname hname' heq
      injection hbehind with _ hbehind
      obtain ⟨htypes, hothers⟩ := append_following_injective htype htype' hbehind
      rw [Prod.ext hnames htypes, ih hrest hrest' hothers]

/-- Names and types without backquotes are read back from their list. -/
theorem listed_quoted_injective {l l' : List (Text × Text)}
    (h : ∀ p ∈ l, backquote ∉ p.1 ∧ backquote ∉ p.2)
    (h' : ∀ p ∈ l', backquote ∉ p.1 ∧ backquote ∉ p.2)
    (heq : listed (l.map quotedColumn) = listed (l'.map quotedColumn)) : l = l' := by
  cases l with
  | nil =>
    cases l' with
    | nil => rfl
    | cons q rest' =>
      rw [listed_quoted_cons] at heq
      cases heq
  | cons p rest =>
    cases l' with
    | nil =>
      rw [listed_quoted_cons] at heq
      cases heq
    | cons q rest' =>
      refine following_injective h h' ?_
      rw [listed_quoted_cons, listed_quoted_cons] at heq
      exact congrArg (fun t => Letter.char ',' :: Letter.char ' ' :: t) heq

end Text

/-! ## Types -/

theorem backquote_not_mem_intText (n : Int) : '\x60' ∉ (intText n).toList := by
  have hdigits : ∀ d < 10, '\x60' ≠ digitChar d := by decide
  intro h
  rcases mem_intText h with h | ⟨d, hd, h⟩
  · exact absurd h (by decide)
  · exact hdigits d hd h

theorem HiveType.backquote_not_mem_text (t : HiveType) :
    Text.backquote ∉ Text.ofString t.text := by
  have htext : '\x60' ∉ t.text.toList := by
    cases t with
    | decimal size =>
      cases size with
      | none => decide
      | some size =>
        have hprecision := backquote_not_mem_intText size.1
        have hscale := backquote_not_mem_intText size.2
        simp [HiveType.text, hprecision, hscale]
    | _ => decide
  simpa [Text.backquote, Text.ofString, Text.ofChars] using htext

/-- What is left of a list without its repetitions was in the list. -/
theorem mem_of_mem_eraseDupsBy {α : Type} {r : α → α → Bool} {a : α} (l : List α)
    (h : a ∈ l.eraseDupsBy r) : a ∈ l := by
  induction hn : l.length using Nat.strongRecOn generalizing l with
  | ind n ih =>
    cases l with
    | nil => exact h
    | cons b rest =>
      rw [List.eraseDupsBy_cons] at h
      rcases List.mem_cons.1 h with rfl | h
      · exact List.mem_cons_self
      · have hshorter := Nat.lt_succ_of_le
          (List.length_filter_le (fun x => decide (r x b = false)) rest)
        have hrest := ih _ (hn ▸ hshorter) _ h rfl
        exact List.mem_cons_of_mem b (List.mem_of_mem_filter hrest)

/-! ## Statements -/

namespace Writer

/-- The columns of a writer have these names, in order, and these types. -/
def Lists (w : Writer) (typed : List (Text × Text)) : Prop :=
  ∃ columns : List Column, (w.outcome .describe).1 = .ok (.columns columns) ∧
    List.Forall₂ (fun c p => c.name = .text p.1 ∧ (w.outcome (.resolve c)).1 = .ok (.text p.2))
      columns typed

/-- The writer after types were set by hand. -/
def given (w : Writer) (pairs : List (Text × ColumnInfo)) : Writer :=
  w.next (.setTypes (pairs.map fun p => (.text p.1, p.2)))

theorem given_definition (w : Writer) (pairs : List (Text × ColumnInfo)) :
    (w.given pairs).definition = w.definition := by
  rw [given, next, perform_setTypes, NameMap.ofEntries_ofPairs]

/-- Each column has one of the names for which types were set. -/
theorem known_given {w : Writer} {pairs : List (Text × ColumnInfo)} {columns : List Column}
    (h : (w.given pairs).known = .ok columns) :
    ∀ c ∈ columns, ∃ p ∈ pairs, c.name = .text p.1 := by
  have hdescribe := perform_describe_given w pairs
  obtain ⟨names, infos, hknown⟩ := perform_describe_eq (w.given pairs)
  rw [given] at hknown h
  rw [hknown, h, describeAll_text] at hdescribe
  intro c hc
  obtain ⟨name, hname, hdescribed⟩ := exists_of_mem_mapM hdescribe.symm hc
  rw [NameMap.names_ofList] at hname
  obtain ⟨p, hp, rfl⟩ := List.mem_map.1 (mem_of_mem_eraseDupsBy _ hname)
  exact ⟨p, hp, name_of_describeName hdescribed⟩

/-- Without overrides a column has a Hive type. -/
theorem resolve_hiveType {d : Definition} (hnone : d.overrides = ∅) {c : Column} {name type : Text}
    (hname : c.name = .text name) (h : d.resolve c = .ok type) :
    ∃ t : HiveType, type = Text.ofString t.text := by
  unfold Definition.resolve at h
  rw [Resolution.ofColumn_text hname (by simp [hnone, NameMap.toList_empty]), hnone] at h
  have habsent : (∅ : NameMap Text).get? name = none := rfl
  rw [habsent] at h
  cases hhive : c.hiveType? with
  | none =>
    rw [hhive] at h
    cases h
  | some t =>
    rw [hhive] at h
    exact ⟨t, (Except.ok.inj h).symm⟩

/-- A statement over types that were set by hand lists the columns of the writer. If no name has a
backquote, only the names in the list do not come out of the backquotes. -/
theorem createTable_given {w : Writer} (hnone : w.definition.overrides = ∅)
    {pairs : List (Text × ColumnInfo)} {create : Text}
    (h : ((w.given pairs).outcome .createTable).1 = .ok (.text create)) :
    ∃ (typed : List (Text × Text)) (rest : Text), (w.given pairs).Lists typed ∧
      (∀ p ∈ typed, (∃ q ∈ pairs, p.1 = q.1) ∧ Text.backquote ∉ p.2) ∧
      w.definition.remainder = .ok rest ∧
      create = w.definition.opening ++ " ( " ++ Text.listed (typed.map Text.quotedColumn) ++ ") " ++
        rest := by
  obtain ⟨typed, hknown, htyped, htable⟩ := createTable_of_outcome (.inl h)
  rw [given_definition] at htable
  obtain ⟨rest, hrest, hstatement⟩ := Definition.createTable_eq_ok htable
  have hnames : ∀ p ∈ typed, ∃ q ∈ pairs, p.1.name = .text q.1 :=
    fun p hp => known_given hknown p.1 (List.mem_map_of_mem hp)
  refine ⟨typed.map fun p => (p.1.name.display, p.2), rest, ⟨typed.map (·.1), ?_, ?_⟩, ?_,
    hrest, ?_⟩
  · rw [outcome_describe, hknown]
    rfl
  · rw [List.forall₂_map_left_iff, List.forall₂_map_right_iff, List.forall₂_same]
    intro p hp
    obtain ⟨q, -, hname⟩ := hnames p hp
    refine ⟨by rw [hname]; rfl, ?_⟩
    rw [outcome_resolve, htyped p hp]
    rfl
  · rw [List.forall_mem_map]
    intro p hp
    obtain ⟨q, hq, hname⟩ := hnames p hp
    have hresolve := resolve_of_typeOf (htyped p hp)
    rw [given_definition] at hresolve
    obtain ⟨t, htype⟩ := resolve_hiveType hnone hname hresolve
    refine ⟨⟨q, hq, by rw [hname]; rfl⟩, ?_⟩
    rw [htype]
    exact t.backquote_not_mem_text
  · rw [hstatement, Definition.columnClause, Definition.named, List.map_map, List.map_map]
    rfl

/-- Two writers over one definition, but for the source and its table, list the same columns if
they make the same statement over types that were set by hand, none of them for a name with a
backquote. -/
theorem same_columns_of_createTable (w w' : Writer) {source : Option SchemaSource}
    {inputTable : Value}
    (hsame : w'.definition = { w.definition with source := source, inputTable := inputTable })
    (hnone : w.definition.overrides = ∅) {pairs pairs' : List (Text × ColumnInfo)}
    (hnames : ∀ p ∈ pairs, Text.backquote ∉ p.1) (hnames' : ∀ p ∈ pairs', Text.backquote ∉ p.1)
    {create : Text} (h : ((w.given pairs).outcome .createTable).1 = .ok (.text create))
    (h' : ((w'.given pairs').outcome .createTable).1 = .ok (.text create)) :
    ∃ typed : List (Text × Text), (w.given pairs).Lists typed ∧ (w'.given pairs').Lists typed := by
  obtain ⟨typed, rest, hlists, hplain, hrest, hstatement⟩ := createTable_given hnone h
  obtain ⟨typed', rest', hlists', hplain', hrest', hstatement'⟩ :=
    createTable_given (w := w') (by rw [hsame]; exact hnone) h'
  rw [hsame] at hrest' hstatement'
  obtain rfl : rest = rest' := Except.ok.inj (hrest.symm.trans hrest')
  have hclause : Text.listed (typed.map Text.quotedColumn) =
      Text.listed (typed'.map Text.quotedColumn) := by
    have hopening : ({ w.definition with source := source, inputTable := inputTable } :
      Definition).opening = w.definition.opening := rfl
    rw [hstatement, hopening] at hstatement'
    simpa using hstatement'
  have hunquoted : ∀ {ps : List (Text × ColumnInfo)} {l : List (Text × Text)},
      (∀ p ∈ ps, Text.backquote ∉ p.1) →
      (∀ p ∈ l, (∃ q ∈ ps, p.1 = q.1) ∧ Text.backquote ∉ p.2) →
      ∀ p ∈ l, Text.backquote ∉ p.1 ∧ Text.backquote ∉ p.2 := by
    intro ps l hps hl p hp
    obtain ⟨⟨q, hq, hname⟩, htype⟩ := hl p hp
    exact ⟨hname ▸ hps q hq, htype⟩
  obtain rfl := Text.listed_quoted_injective (hunquoted hnames hplain) (hunquoted hnames' hplain')
    hclause
  exact ⟨typed, hlists, hlists'⟩

/-- The statement of a writer. Texts have decidable equality, replies have none. -/
def statement? (w : Writer) : Option Text :=
  match (w.outcome .createTable).1 with
  | .ok (.text t) => some t
  | _ => none

theorem outcome_of_statement? {w : Writer} {t : Text} (h : w.statement? = some t) :
    (w.outcome .createTable).1 = .ok (.text t) := by
  unfold statement? at h
  split at h
  · rename_i heq
    rw [heq, Option.some.inj h]
  · cases h

/-- Types that differ in the source but not in Hive make the same statement. -/
theorem same_columns_of_createTable_smallint :
    let d : Definition := ⟨{}, none, .null, .text "t", false, false,
      ⟨⟨2024, 1, 1⟩, 0, 0, 0, 0, none⟩, ∅⟩
    let w : Writer := { definition := d }
    let named := w.given [("a", .value (.text "INTEGER")), ("b", .value (.text "DATE"))]
    let coded := w.given [("a", .value (.int 5)), ("b", .value (.text "clob"))]
    ∃ (create : Text) (typed : List (Text × Text)),
      (named.outcome .createTable).1 = .ok (.text create) ∧
      (coded.outcome .createTable).1 = .ok (.text create) ∧
      named.Lists typed ∧ coded.Lists typed := by
  intro d w named coded
  have hplain : ∀ info info' : ColumnInfo,
      ∀ p ∈ [(Text.ofString "a", info), (Text.ofString "b", info')], Text.backquote ∉ p.1 := by
    intro info info'
    simp only [List.forall_mem_cons]
    exact ⟨by decide, by decide, by simp⟩
  have hsame : named.statement?.isSome = true ∧ coded.statement? = named.statement? := by
    decide +kernel
  obtain ⟨create, hnamed⟩ := Option.isSome_iff_exists.1 hsame.1
  have hcreate := outcome_of_statement? hnamed
  have hcreate' := outcome_of_statement? (hsame.2.trans hnamed)
  obtain ⟨typed, hlists, hlists'⟩ := same_columns_of_createTable w w rfl rfl (hplain _ _)
    (hplain _ _) hcreate hcreate'
  exact ⟨create, typed, hcreate, hcreate', hlists, hlists'⟩

/-- A backquote in a name can end a column in the middle of the name, and start another one. -/
theorem createTable_backquote :
    let d : Definition := ⟨{}, none, .null, .text "t", false, false,
      ⟨⟨2024, 1, 1⟩, 0, 0, 0, 0, none⟩, ∅⟩
    let w : Writer := { definition := d }
    let two := w.given [("a", .value (.text "INTEGER")), ("b", .value (.text "INTEGER"))]
    let one := w.given [("a` INT, `b", .value (.text "INTEGER"))]
    (∃ create, (two.outcome .createTable).1 = .ok (.text create) ∧
      (one.outcome .createTable).1 = .ok (.text create)) ∧
    ¬ ∃ typed, two.Lists typed ∧ one.Lists typed := by
  intro d w two one
  have hsame : two.statement?.isSome = true ∧ one.statement? = two.statement? := by
    decide +kernel
  obtain ⟨create, hcreate⟩ := Option.isSome_iff_exists.1 hsame.1
  refine ⟨⟨create, outcome_of_statement? hcreate,
    outcome_of_statement? (hsame.2.trans hcreate)⟩, ?_⟩
  rintro ⟨typed, ⟨columns, htwo, htyped⟩, columns', hone, htyped'⟩
  obtain ⟨c₁, c₂, hcolumns⟩ : ∃ c₁ c₂, (two.outcome .describe).1 = .ok (.columns [c₁, c₂]) :=
    ⟨_, _, rfl⟩
  obtain ⟨c, hcolumn⟩ : ∃ c, (one.outcome .describe).1 = .ok (.columns [c]) := ⟨_, rfl⟩
  rw [hcolumns] at htwo
  rw [hcolumn] at hone
  obtain rfl := Reply.columns.inj (Except.ok.inj htwo)
  obtain rfl := Reply.columns.inj (Except.ok.inj hone)
  have hlength := htyped.length_eq.trans htyped'.length_eq.symm
  simp at hlength

end Writer

end HiveTable
