import HiveTable.Files
import HiveTable.Proofs.Path
import HiveTable.Proofs.Success

/-!
# Where paths lead

A path leads from directory to directory, by the names between its slashes. It leads to the same
place for as long as the directories stay (`locate_mono`): work that only adds directories, and
replaces what is no directory, leaves all ways as they are. The beginning of a path that leads
anywhere is itself the path of a directory (`walk_of_locate_append`).
-/

namespace HiveTable.FileTree
open HiveTable.Path (Bytes)
variable {t t' t'' : FileTree} {path name : Bytes} {text : String} {place next : List Bytes}

/-! ## Entries -/

theorem put_same (t : FileTree) (e : Entry) (h : place ≠ []) :
    entry? (t.put place e) place = some e := by
  simp [ entry?, put, h]

theorem put_other (t : FileTree) (e : Entry) {q : List Bytes} (h : q ≠ place) :
    entry? (t.put place e) q = t.entry? q := by
  have hfilter : (t.entries.filter (·.1 != place)).lookup q = t.entries.lookup q := by
    induction t.entries with
    | nil => rfl
    | cons entry rest ih =>
      by_cases hplace : entry.1 = place
      · have hq : (q == entry.1) = false := by simp [hplace, h]
        rw [List.filter_cons_of_neg (by simp [hplace]), List.lookup_cons, hq, ih]
      · rw [List.filter_cons_of_pos (by simp [hplace]), List.lookup_cons, List.lookup_cons, ih]
  have hq : (q == place) = false := by simp [h]
  unfold entry? put
  simp only [List.lookup_cons, hq, hfilter]

/-- To put an entry where it is already changes none. -/
theorem put_put (t : FileTree) (e : Entry) (q : List Bytes) :
    entry? ((t.put place e).put place e) q = entry? (t.put place e) q := by
  by_cases h : q = place
  · subst h
    by_cases hroot : q = []
    · simp [ entry?, hroot]
    · rw [put_same _ _ hroot, put_same _ _ hroot]
  · exact put_other _ _ h

/-- All directories stay where they are. -/
structure Stands (t t' : FileTree) : Prop where
  here : t'.here = t.here
  directory : ∀ place, t.entry? place = some .directory → t'.entry? place = some .directory

theorem Stands.refl (t : FileTree) : Stands t t := ⟨rfl, fun _ => id⟩

theorem Stands.trans (h : Stands t t') (h' : Stands t' t'') : Stands t t'' :=
  ⟨h'.here.trans h.here, fun place hplace => h'.directory place (h.directory place hplace)⟩

/-- What is no directory is replaced. -/
theorem stands_put (e : Entry) (h : t.entry? place ≠ some .directory) :
    Stands t (t.put place e) := by
  refine ⟨rfl, fun q hq => ?_⟩
  have hne : q ≠ place := by
    rintro rfl
    exact h hq
  rw [put_other _ _ hne]
  exact hq

/-- Nothing happened but that directories were added. -/
structure Grown (t t' : FileTree) : Prop extends Stands t t' where
  file : ∀ place text, t'.entry? place = some (.file text) ↔ t.entry? place = some (.file text)

theorem Grown.refl (t : FileTree) : Grown t t := ⟨.refl t, fun _ _ => .rfl⟩

theorem Grown.trans (h : Grown t t') (h' : Grown t' t'') : Grown t t'' :=
  ⟨h.toStands.trans h'.toStands,
    fun place text => (h'.file place text).trans (h.file place text)⟩

theorem grown_put_directory (h : t.entry? place = none) : Grown t (t.put place .directory) := by
  have hroot : place ≠ [] := by
    rintro rfl
    simp [ entry?] at h
  refine ⟨stands_put _ (by simp [h]), fun q text => ?_⟩
  by_cases hq : q = place
  · rw [hq, put_same _ _ hroot, h]
    simp
  · rw [put_other _ _ hq]

/-! ## Steps of a way -/

/-- A name of an entry, and none that only leads back. -/
structure Proper (name : Bytes) : Prop where
  ne_here : name ≠ .here
  ne_up : name ≠ .up
  short : name.length ≤ maxName

theorem enter_eq_ok :
    t.enter place name = .ok next ↔
      (name = .here ∧ next = place) ∨ (name = .up ∧ next = place.dropLast) ∨
        (Proper name ∧ next = place ++ [name] ∧ t.entry? (place ++ [name]) = some .directory) := by
  unfold enter
  by_cases hhere : name = .here
  · subst hhere
    have hnot : ¬ Proper .here := fun h => h.ne_here rfl
    have hne : Bytes.here ≠ .up := by decide
    simpa [hnot, hne] using eq_comm
  by_cases hup : name = .up
  · subst hup
    have hnot : ¬ Proper .up := fun h => h.ne_up rfl
    simpa [hnot, hhere] using eq_comm
  rw [if_neg (by simpa using hhere), if_neg (by simpa using hup)]
  by_cases hlong : name.length > maxName
  · have hnot : ¬ Proper name := fun h => Nat.not_lt.2 h.short hlong
    simp [hhere, hup, hlong, hnot]
  · have hproper : Proper name := ⟨hhere, hup, Nat.not_lt.1 hlong⟩
    rw [if_neg hlong]
    cases hentry : t.entry? (place ++ [name]) with
    | none => simp [hhere, hup]
    | some e => cases e <;> simp [hhere, hup, hproper, eq_comm]

/-- A step leads where it led, as long as directories stay. -/
theorem enter_mono (h : Stands t t') (hentered : t.enter place name = .ok next) :
    t'.enter place name = .ok next := by
  rw [enter_eq_ok] at hentered ⊢
  exact hentered.imp_right (.imp_right fun ⟨hproper, hnext, hentry⟩ =>
    ⟨hproper, hnext, h.directory _ hentry⟩)

/-- Where a path starts. -/
def start (t : FileTree) (path : Bytes) : List Bytes := if path.isRooted then [] else t.here

/-- The place that a path leads to if all that it names are directories. -/
def walk (t : FileTree) (path : Bytes) : Except FileFault (List Bytes) :=
  path.parts.foldlM t.enter (t.start path)

/-! ## Places of paths -/

/-- Nothing is wrong with a path as such. -/
structure Usable (path : Bytes) : Prop where
  noNul : 0 ∉ path
  ne_nil : path ≠ []
  short : path.length ≤ maxPath

theorem usable_of_locate {r : List Bytes × Option Bytes} (h : t.locate path = .ok r) :
    Usable path := by
  unfold locate at h
  by_cases hnul : path.contains 0 = true
  · simp only [hnul, if_true] at h
    cases h
  by_cases hempty : path.isEmpty = true
  · simp only [hnul, hempty, if_true] at h
    cases h
  by_cases hlong : path.length > maxPath
  · simp only [hnul, hempty, hlong, if_true] at h
    cases h
  exact ⟨by simpa using hnul, by simpa using hempty, by simpa using hlong⟩

theorem locate_of_usable (h : Usable path) :
    t.locate path =
      match path.parts.reverse with
      | [] => .ok (t.start path, none)
      | last :: before => do
        let place ← before.reverse.foldlM t.enter (t.start path)
        if last == .here || last == .up then return (← t.enter place last, none)
        else if last.length > maxName then throw .nameTooLong
        else return (place, some last) := by
  have hnul : path.contains 0 = false := by simpa using h.noNul
  have hempty : path.isEmpty = false := by simpa using h.ne_nil
  have hlong : ¬ path.length > maxPath := Nat.not_lt.2 h.short
  unfold locate
  simp only [hnul, hempty, hlong]
  rfl

theorem locate_of_back {before : List Bytes} (h : Usable path)
    (hparts : path.parts = before ++ [name]) (hback : name = .here ∨ name = .up) :
    t.locate path = t.walk path >>= fun place => .ok (place, none) := by
  have hlast : (name == .here || name == .up) = true := by simpa using hback
  rw [locate_of_usable h, walk, hparts, List.foldlM_append, List.reverse_concat]
  simp only [hlast, if_true, List.reverse_reverse, List.foldlM_cons, List.foldlM_nil, bind_assoc,
    bind_pure]
  rfl

theorem locate_of_proper {before : List Bytes} (h : Usable path)
    (hparts : path.parts = before ++ [name]) (hproper : Proper name) :
    t.locate path =
      before.foldlM t.enter (t.start path) >>= fun place => .ok (place, some name) := by
  have hlast : (name == .here || name == .up) = false := by
    simp [hproper.ne_here, hproper.ne_up]
  rw [locate_of_usable h, hparts, List.reverse_concat]
  simp only [hlast, if_neg (Nat.not_lt.2 hproper.short), List.reverse_reverse]
  rfl

/-- A path either leads to a place by directories alone, or to a name in the place before it. -/
theorem locate_eq_ok {name? : Option Bytes} :
    t.locate path = .ok (place, name?) ↔
      Usable path ∧
        ((name? = none ∧ t.walk path = .ok place ∧
            ∀ last ∈ path.parts.getLast?, last = .here ∨ last = .up) ∨
          ∃ before name, name? = some name ∧ Proper name ∧ path.parts = before ++ [name] ∧
            before.foldlM t.enter (t.start path) = .ok place) := by
  constructor
  · intro h
    have husable := usable_of_locate h
    refine ⟨husable, ?_⟩
    rcases List.eq_nil_or_concat path.parts with hparts | ⟨before, last, hparts⟩
    · rw [locate_of_usable husable, hparts] at h
      obtain ⟨rfl, rfl⟩ := Prod.mk.inj (Except.ok.inj h)
      exact .inl ⟨rfl, by rw [walk, hparts]; rfl, by simp [hparts]⟩
    rw [List.concat_eq_append] at hparts
    by_cases hback : last = .here ∨ last = .up
    · rw [locate_of_back husable hparts hback] at h
      obtain ⟨place', hwalk, hplace⟩ := bind_eq_ok.1 h
      obtain ⟨rfl, rfl⟩ := Prod.mk.inj (Except.ok.inj hplace)
      exact .inl ⟨rfl, hwalk, by simpa [hparts] using hback⟩
    · by_cases hlong : last.length > maxName
      · have hlast : (last == .here || last == .up) = false := by simpa using hback
        rw [locate_of_usable husable, hparts, List.reverse_concat] at h
        simp only [hlast, hlong, if_true] at h
        obtain ⟨_, -, hthrow⟩ := bind_eq_ok.1 h
        cases hthrow
      · have hproper : Proper last :=
          ⟨fun h => hback (.inl h), fun h => hback (.inr h), Nat.not_lt.1 hlong⟩
        rw [locate_of_proper husable hparts hproper] at h
        obtain ⟨place', hway, hplace⟩ := bind_eq_ok.1 h
        obtain ⟨rfl, rfl⟩ := Prod.mk.inj (Except.ok.inj hplace)
        exact .inr ⟨before, last, rfl, hproper, hparts, hway⟩
  · rintro ⟨husable, ⟨rfl, hwalk, hback⟩ | ⟨before, name, rfl, hproper, hparts, hway⟩⟩
    · rcases List.eq_nil_or_concat path.parts with hparts | ⟨before, last, hparts⟩
      · rw [walk, hparts] at hwalk
        rw [locate_of_usable husable, hparts, ← Except.ok.inj hwalk]
        rfl
      · rw [List.concat_eq_append] at hparts
        rw [locate_of_back husable hparts (hback last (by simp [hparts])), hwalk]
        rfl
    · rw [locate_of_proper husable hparts hproper, hway]
      rfl

theorem way_mono (h : Stands t t') {names : List Bytes} {start : List Bytes}
    (hway : names.foldlM t.enter start = .ok place) : names.foldlM t'.enter start = .ok place :=
  foldlM_agrees (fun _ _ _ => enter_mono h) hway

theorem walk_mono (h : Stands t t') (hwalk : t.walk path = .ok place) :
    t'.walk path = .ok place := by
  unfold walk start at hwalk ⊢
  rw [h.here]
  exact way_mono h hwalk

/-- A path leads to where it led, as long as directories stay. -/
theorem locate_mono (h : Stands t t') {r : List Bytes × Option Bytes}
    (hlocate : t.locate path = .ok r) : t'.locate path = .ok r := by
  rw [locate_eq_ok] at hlocate ⊢
  refine hlocate.imp_right (.imp ?_ ?_)
  · exact fun ⟨hnone, hwalk, hback⟩ => ⟨hnone, walk_mono h hwalk, hback⟩
  · rintro ⟨before, name, hname, hproper, hparts, hway⟩
    refine ⟨before, name, hname, hproper, hparts, ?_⟩
    unfold start at hway ⊢
    rw [h.here]
    exact way_mono h hway

/-- The place of a directory or a file. -/
def resolve (t : FileTree) (path : Bytes) : Except FileFault (List Bytes) := do
  let (place, name) ← t.locate path
  return place ++ name.toList

theorem resolve_of_locate {name? : Option Bytes} (h : t.locate path = .ok (place, name?)) :
    t.resolve path = .ok (place ++ name?.toList) := by
  rw [resolve, h]
  rfl

/-! ## What is found -/

theorem walk_of_locate_none (h : t.locate path = .ok (place, none)) : t.walk path = .ok place := by
  obtain ⟨-, ⟨-, hwalk, -⟩ | ⟨_, _, hname, -⟩⟩ := locate_eq_ok.1 h
  · exact hwalk
  · cases hname

theorem walk_of_locate_some (h : t.locate path = .ok (place, some name))
    (hentry : t.entry? (place ++ [name]) = some .directory) :
    t.walk path = .ok (place ++ [name]) := by
  obtain ⟨-, ⟨hname, -⟩ | ⟨before, _, ⟨⟩, hproper, hparts, hway⟩⟩ := locate_eq_ok.1 h
  · cases hname
  · rw [walk, hparts, List.foldlM_append, hway, ok_bind, List.foldlM_cons,
      enter_eq_ok.2 (.inr (.inr ⟨hproper, rfl, hentry⟩))]
    rfl

theorem locate_of_walk (husable : Usable path) (h : t.walk path = .ok place) :
    t.locate path = .ok (place, none) ∨
      ∃ before name, t.locate path = .ok (before, some name) ∧ place = before ++ [name] ∧
        t.entry? place = some .directory := by
  rcases List.eq_nil_or_concat path.parts with hparts | ⟨names, last, hparts⟩
  · exact .inl (locate_eq_ok.2 ⟨husable, .inl ⟨rfl, h, by simp [hparts]⟩⟩)
  rw [List.concat_eq_append] at hparts
  have hsteps := h
  rw [walk, hparts, List.foldlM_append] at hsteps
  obtain ⟨before, hway, hlast⟩ := bind_eq_ok.1 hsteps
  obtain ⟨_, henter, ⟨⟩⟩ := bind_eq_ok.1 hlast
  rcases enter_eq_ok.1 henter with ⟨hhere, -⟩ | ⟨hup, -⟩ | ⟨hproper, rfl, hentry⟩
  · exact .inl (locate_eq_ok.2 ⟨husable, .inl ⟨rfl, h, by simp [hparts, hhere]⟩⟩)
  · exact .inl (locate_eq_ok.2 ⟨husable, .inl ⟨rfl, h, by simp [hparts, hup]⟩⟩)
  · exact .inr ⟨before, last,
      locate_eq_ok.2 ⟨husable, .inr ⟨names, last, rfl, hproper, hparts, hway⟩⟩, rfl, hentry⟩

theorem find_eq_directory :
    t.find path = .ok .directory ↔ Usable path ∧ ∃ place, t.walk path = .ok place := by
  constructor
  · intro h
    obtain ⟨⟨place, name?⟩, hlocate, hfound⟩ := bind_eq_ok.1 h
    refine ⟨usable_of_locate hlocate, ?_⟩
    cases name? with
    | none => exact ⟨place, walk_of_locate_none hlocate⟩
    | some name =>
      refine ⟨place ++ [name], walk_of_locate_some hlocate ?_⟩
      dsimp only at hfound
      split at hfound
      · split at hfound <;> cases hfound
      · assumption
      · cases hfound
  · rintro ⟨husable, place, hwalk⟩
    rcases locate_of_walk husable hwalk with hlocate | ⟨before, name, hlocate, rfl, hentry⟩
    · rw [find, hlocate]
      rfl
    · rw [find, hlocate, ok_bind]
      dsimp only
      rw [hentry]
      rfl

theorem find_eq_file :
    t.find path = .ok (.file text) ↔
      ∃ place name, t.locate path = .ok (place, some name) ∧
        t.entry? (place ++ [name]) = some (.file text) ∧ path.endsInSlash = false := by
  constructor
  · intro h
    obtain ⟨⟨place, name?⟩, hlocate, hfound⟩ := bind_eq_ok.1 h
    cases name? with
    | none => cases hfound
    | some name =>
      refine ⟨place, name, hlocate, ?_⟩
      dsimp only at hfound
      split at hfound
      · rename_i found hentry
        split at hfound
        · cases hfound
        · rename_i hslash
          obtain rfl := Entry.file.inj (Except.ok.inj hfound)
          exact ⟨hentry, by simpa using hslash⟩
      · cases hfound
      · cases hfound
  · rintro ⟨place, name, hlocate, hentry, hslash⟩
    rw [find, hlocate, ok_bind]
    dsimp only
    rw [hentry]
    dsimp only
    rw [hslash]
    rfl

/-- A path of a directory leads to it by directories alone. -/
theorem kind?_eq_directory :
    t.kind? path = some .directory ↔ Usable path ∧ ∃ place, t.walk path = .ok place := by
  rw [← find_eq_directory, kind?]
  rcases t.find path with f | ⟨_ | text⟩ <;> simp

theorem read_eq_ok : t.read path = .ok text ↔ t.find path = .ok (.file text) := by
  rw [read]
  rcases t.find path with f | ⟨_ | found⟩
  · simp [bind, Except.bind]
  · simp [bind, Except.bind, throw, throwThe, MonadExceptOf.throw]
  · simp [bind, Except.bind, pure, Except.pure]

theorem kind?_of_read (h : t.read path = .ok text) : t.kind? path = some .file := by
  rw [kind?, read_eq_ok.1 h]

theorem resolve_of_walk (husable : Usable path) (h : t.walk path = .ok place) :
    t.resolve path = .ok place := by
  rcases locate_of_walk husable h with hlocate | ⟨before, name, hlocate, rfl, -⟩
  · simpa using resolve_of_locate hlocate
  · exact resolve_of_locate hlocate

/-- A file that stays is found again, as long as directories stay. -/
theorem find_file_mono (h : Stands t t') (hfind : t.find path = .ok (.file text))
    (hkept : ∀ place, t.resolve path = .ok place →
      t.entry? place = some (.file text) → t'.entry? place = some (.file text)) :
    t'.find path = .ok (.file text) := by
  obtain ⟨place, name, hlocate, hentry, hslash⟩ := find_eq_file.1 hfind
  exact find_eq_file.2 ⟨place, name, locate_mono h hlocate,
    hkept _ (resolve_of_locate hlocate) hentry, hslash⟩

/-! ## Changes -/

/-- A file is written to a place where no directory is. -/
theorem write_eq_ok {content : String} :
    t.write path content = .ok t' ↔
      ∃ place name, t.locate path = .ok (place, some name) ∧
        t.entry? (place ++ [name]) ≠ some .directory ∧ path.endsInSlash = false ∧
        t' = t.put (place ++ [name]) (.file content) := by
  constructor
  · intro h
    obtain ⟨⟨place, name?⟩, hlocate, hwritten⟩ := bind_eq_ok.1 h
    cases name? with
    | none => cases hwritten
    | some name =>
      refine ⟨place, name, hlocate, ?_⟩
      dsimp only at hwritten
      split at hwritten
      · cases hwritten
      all_goals
        rename_i hentry
        split at hwritten
        · cases hwritten
        · rename_i hslash
          exact ⟨by simp [hentry], by simpa using hslash, (Except.ok.inj hwritten).symm⟩
  · rintro ⟨place, name, hlocate, hentry, hslash, rfl⟩
    rw [write, hlocate, ok_bind]
    dsimp only
    rw [hslash]
    cases hfound : t.entry? (place ++ [name]) with
    | none => rfl
    | some e =>
      cases e with
      | directory => exact absurd hfound hentry
      | file text => rfl

theorem stands_write {content : String} (h : t.write path content = .ok t') : t.Stands t' := by
  obtain ⟨place, name, -, hentry, -, rfl⟩ := write_eq_ok.1 h
  exact stands_put _ hentry

/-- A file is in its place after it was written, and nothing changes in any other. -/
theorem entry_write {content : String} (h : t.write path content = .ok t') :
    ∃ place, t'.resolve path = .ok place ∧ t'.entry? place = some (.file content) ∧
      ∀ other, other ≠ place → t'.entry? other = t.entry? other := by
  have hstands := stands_write h
  obtain ⟨place, name, hlocate, -, -, rfl⟩ := write_eq_ok.1 h
  exact ⟨place ++ [name], resolve_of_locate (locate_mono hstands hlocate),
    put_same _ _ (by simp), fun other => put_other _ _⟩

/-- What was written is read again. -/
theorem read_write {content : String} (h : t.write path content = .ok t') :
    t'.read path = .ok content := by
  have hstands := stands_write h
  obtain ⟨place, name, hlocate, -, hslash, rfl⟩ := write_eq_ok.1 h
  exact read_eq_ok.2 (find_eq_file.2
    ⟨place, name, locate_mono hstands hlocate, put_same _ _ (by simp), hslash⟩)

/-- To write the same once more changes nothing. -/
theorem write_again {content : String} (h : t.write path content = .ok t') :
    ∃ t'', t'.write path content = .ok t'' ∧ ∀ place, t''.entry? place = t'.entry? place := by
  have hstands := stands_write h
  obtain ⟨place, name, hlocate, -, hslash, rfl⟩ := write_eq_ok.1 h
  refine ⟨_, write_eq_ok.2 ⟨place, name, locate_mono hstands hlocate, ?_, hslash, rfl⟩,
    put_put _ _⟩
  simp [put_same]

theorem grown_makeDirectory (h : t.makeDirectory path = .ok t') : Grown t t' := by
  obtain ⟨⟨place, name?⟩, -, hmade⟩ := bind_eq_ok.1 h
  cases name? with
  | none => cases hmade
  | some name =>
    dsimp only at hmade
    split at hmade
    · cases hmade
    · rename_i hentry
      obtain rfl := Except.ok.inj hmade
      exact grown_put_directory hentry

/-- Where a directory is, none is made. -/
theorem makeDirectory_of_walk (husable : Usable path) (h : t.walk path = .ok place) :
    t.makeDirectory path = .error .exists := by
  rcases locate_of_walk husable h with hlocate | ⟨before, name, hlocate, rfl, hentry⟩
  · rw [makeDirectory, hlocate]
    rfl
  · rw [makeDirectory, hlocate, ok_bind]
    dsimp only
    rw [hentry]
    rfl

/-! ## Beginnings of paths -/

/-- The beginning of a path is as good as the path. -/
theorem Usable.beginning {a rest : Bytes} (h : Usable (a ++ rest)) (ha : a ≠ []) : Usable a where
  noNul := fun hmem => h.noNul (List.mem_append_left rest hmem)
  ne_nil := ha
  short := le_trans (by simp) h.short

theorem start_append {a rest : Bytes} (ha : a ≠ []) : t.start (a ++ rest) = t.start a := by
  have hrooted : (a ++ rest).isRooted = a.isRooted := by
    obtain ⟨b, others, rfl⟩ := List.exists_cons_of_ne_nil ha
    rfl
  rw [start, start, hrooted]

/-- The way of a path is that of its beginning and then that of the rest. -/
theorem walk_append {a rest : Bytes} (ha : a ≠ []) (hmeets : Bytes.Meets a rest)
    (h : t.walk (a ++ rest) = .ok place) : ∃ q, t.walk a = .ok q := by
  rw [walk, Bytes.parts_append hmeets, List.foldlM_append, start_append ha] at h
  obtain ⟨q, hq, -⟩ := bind_eq_ok.1 h
  exact ⟨q, hq⟩

/-- A path to a name in a directory goes by the directories that its beginning names. -/
theorem walk_of_locate_append {a rest : Bytes} (ha : a ≠ []) (hmeets : Bytes.Meets a rest)
    (hrest : rest.parts ≠ []) (h : t.locate (a ++ rest) = .ok (place, some name)) :
    ∃ inner q, rest.parts = inner ++ [name] ∧ t.walk a = .ok q ∧
      inner.foldlM t.enter q = .ok place := by
  obtain ⟨inner, last, hinner⟩ := (List.eq_nil_or_concat _).resolve_left hrest
  rw [List.concat_eq_append] at hinner
  obtain ⟨-, ⟨hname, -⟩ | ⟨before, _, ⟨⟩, -, hparts, hway⟩⟩ := locate_eq_ok.1 h
  · cases hname
  rw [Bytes.parts_append hmeets, hinner, ← List.append_assoc] at hparts
  obtain ⟨rfl, hlast⟩ := List.append_inj' hparts rfl
  obtain rfl := List.singleton_inj.1 hlast
  rw [List.foldlM_append, start_append ha] at hway
  obtain ⟨q, hq, hway⟩ := bind_eq_ok.1 hway
  exact ⟨inner, q, hinner, hq, hway⟩

end HiveTable.FileTree
