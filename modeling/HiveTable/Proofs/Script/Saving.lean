import HiveTable.Proofs.Script

/-!
# What the writing of a script does to a tree

Before the script is written, directories are made. That adds directories and nothing else
(`makeDirectories_builds`), and nothing at all where the directory is there already
(`makeDirectories_of_directory`). Then the script is put in its place: `save_eq_ok` says which tree
and which report a script leaves that was written.
-/

namespace HiveTable.Script
variable {α β : Type} {w w' : Workspace} {t : FileTree}

/-! ## Making directories -/

/-- An action only adds directories, and what was reported before makes no difference to it. -/
def Builds (a : Action (StateM Workspace) α) : Prop :=
  ∀ t, ∃ result t', t.Grown t' ∧ ∀ events, perform ⟨t, events⟩ a = (result, ⟨t', events⟩)

namespace Builds

protected theorem pure (x : α) : Builds (pure x) := fun t => ⟨.ok x, t, .refl t, fun _ => rfl⟩

protected theorem throw (f : Failure) : Builds (throw f : Action (StateM Workspace) α) :=
  fun t => ⟨.error f, t, .refl t, fun _ => rfl⟩

protected theorem bind {a : Action (StateM Workspace) α} {f : α → Action (StateM Workspace) β}
    (ha : Builds a) (hf : ∀ x, Builds (f x)) : Builds (a >>= f) := by
  intro t
  obtain ⟨result, t₁, hgrown, hrun⟩ := ha t
  cases result with
  | error e => exact ⟨.error e, t₁, hgrown, fun events => perform_bind_of_error (hrun events)⟩
  | ok x =>
    obtain ⟨result, t₂, hgrown₂, hrun₂⟩ := hf x t₁
    exact ⟨result, t₂, hgrown.trans hgrown₂,
      fun events => (perform_bind_of_ok (hrun events)).trans (hrun₂ events)⟩

protected theorem tryCatch {a : Action (StateM Workspace) α}
    {handle : Failure → Action (StateM Workspace) α} (ha : Builds a)
    (hhandle : ∀ e, Builds (handle e)) : Builds (tryCatch a handle) := by
  intro t
  obtain ⟨result, t₁, hgrown, hrun⟩ := ha t
  cases result with
  | ok x => exact ⟨.ok x, t₁, hgrown, fun events => by rw [perform_tryCatch, hrun]⟩
  | error e =>
    obtain ⟨result, t₂, hgrown₂, hrun₂⟩ := hhandle e t₁
    exact ⟨result, t₂, hgrown.trans hgrown₂,
      fun events => (perform_tryCatch_of_error (hrun events)).trans (hrun₂ events)⟩

theorem ite {c : Prop} [Decidable c] {a b : Action (StateM Workspace) α} (ha : Builds a)
    (hb : Builds b) : Builds (if c then a else b) := by
  split <;> assumption

end Builds

theorem kind?_builds (path : Text) : Builds (kind? path) := by
  unfold kind?
  split
  · rename_i bytes _
    exact fun t => ⟨.ok (t.kind? bytes), t, .refl t, fun _ => rfl⟩
  · exact .pure none

/-- How the making of one directory ends. -/
theorem change_makeDirectory (path : Path.Bytes) (events : List Event) :
    (FileStore.makeDirectory path : StateM Workspace (Except FileFault Unit)) ⟨t, events⟩ =
      match t.makeDirectory path with
      | .ok t' => (.ok (), ⟨t', events⟩)
      | .error fault => (.error fault, ⟨t, events⟩) := rfl

theorem attempt_makeDirectory_builds (path : Text) :
    Builds (attempt path (FileStore.makeDirectory (m := StateM Workspace))) := by
  cases hpath : Path.bytes? path with
  | none =>
    rw [attempt_of_half hpath]
    exact .throw _
  | some bytes =>
    intro t
    cases hmade : t.makeDirectory bytes with
    | ok t' =>
      refine ⟨.ok (), t', FileTree.grown_makeDirectory hmade, fun events => ?_⟩
      rw [perform_attempt _ hpath, change_makeDirectory, hmade]
      rfl
    | error fault =>
      refine ⟨ended path (.error fault), t, .refl t, fun events => ?_⟩
      rw [perform_attempt _ hpath, change_makeDirectory, hmade]

theorem makeDirectory_builds (path : Text) : Builds (makeDirectory path) := by
  unfold makeDirectory
  refine .tryCatch (attempt_makeDirectory_builds path) fun e => ?_
  split
  · exact .bind (kind?_builds path) fun _ => .ite (.throw _) (.pure ())
  · exact .throw e

theorem makeDirectories_builds (fuel : Nat) (path : Text) : Builds (makeDirectories fuel path) := by
  induction fuel generalizing path with
  | zero =>
    unfold makeDirectories
    dsimp only
    refine .ite (.bind (.pure false) fun missing => ?_)
      (.bind (kind?_builds _) fun found => .bind (.pure _) fun missing => ?_)
    all_goals
      exact .ite (.ite (.pure ()) (makeDirectory_builds path))
        (.ite (.pure ()) (makeDirectory_builds path))
  | succ fuel ih =>
    unfold makeDirectories
    dsimp only
    refine .ite (.bind (.pure false) fun missing => ?_)
      (.bind (kind?_builds _) fun found => .bind (.pure _) fun missing => ?_)
    all_goals
      refine .ite (.bind (.tryCatch (ih _) fun e => ?_) fun _ =>
        .ite (.pure ()) (makeDirectory_builds path)) (.ite (.pure ()) (makeDirectory_builds path))
      split
      · exact .pure ()
      · exact .throw e

/-- Where no parent is missing, the directory itself is made and no other. -/
theorem makeDirectories_of_parent (fuel : Nat) {path : Text}
    (h : (Path.parent path).1 = [] ∨
      ∃ kind, perform w (kind? (Path.parent path).1) = (.ok (some kind), w)) :
    perform w (makeDirectories fuel path) = perform w (makeDirectory path) := by
  have hpresent : ∀ k : Bool → Action (StateM Workspace) Unit,
      perform w (if ((Path.parent path).1.isEmpty || (Path.parent path).2.isEmpty) = true
        then pure false >>= k
        else kind? (Path.parent path).1 >>= fun found => pure found.isNone >>= k) =
      perform w (k false) := by
    intro k
    split
    · rfl
    · rename_i hparent
      obtain hnil | ⟨kind, hkind⟩ := h
      · simp [hnil] at hparent
      · rw [perform_bind_of_ok hkind]
        rfl
  unfold makeDirectories
  dsimp only
  exact hpresent _

theorem makeDirectory_of_directory {path : Text} {d : Path.Bytes}
    (hbytes : Path.bytes? path = some d) (h : w.tree.kind? d = some .directory) :
    perform w (makeDirectory path) = (.ok (), w) := by
  obtain ⟨husable, place, hwalk⟩ := FileTree.kind?_eq_directory.1 h
  have hmade : perform w (attempt path (FileStore.makeDirectory (m := StateM Workspace))) =
      (.error (.file path .exists), w) := by
    rw [perform_attempt w hbytes, change_makeDirectory,
      FileTree.makeDirectory_of_walk husable hwalk]
    rfl
  unfold makeDirectory
  rw [perform_tryCatch_of_error hmade]
  dsimp only
  rw [perform_bind_of_ok (perform_kind? w hbytes), h]
  rfl

/-- The parent of a directory is one. -/
theorem kind?_parent {path : Text} {d : Path.Bytes} (hbytes : Path.bytes? path = some d)
    (h : t.kind? d = some .directory) (hhead : (Path.parent path).1 ≠ []) :
    ∃ head, Path.bytes? (Path.parent path).1 = some head ∧ t.kind? head = some .directory := by
  obtain ⟨husable, place, hwalk⟩ := FileTree.kind?_eq_directory.1 h
  obtain ⟨rest, hpath, hmeets⟩ := Path.parent_begins path
  obtain ⟨head, tail, hheadBytes, hrestBytes, rfl⟩ :=
    Path.bytes?_append_eq_some.1 (hpath ▸ hbytes)
  have hne : head ≠ [] := by
    rintro rfl
    exact hhead (Path.bytes?_eq_some_nil.1 hheadBytes)
  exact ⟨head, hheadBytes, FileTree.kind?_eq_directory.2 ⟨husable.beginning hne,
    FileTree.walk_append hne (hmeets.bytes hheadBytes hrestBytes) hwalk⟩⟩

/-- Where the directory is already, nothing is done. -/
theorem makeDirectories_of_directory {path : Text} {d : Path.Bytes}
    (hbytes : Path.bytes? path = some d) (h : w.tree.kind? d = some .directory) (fuel : Nat) :
    perform w (makeDirectories fuel path) = (.ok (), w) := by
  rw [makeDirectories_of_parent, makeDirectory_of_directory hbytes h]
  by_cases hnil : (Path.parent path).1 = []
  · exact .inl hnil
  · obtain ⟨head, hhead, hkind⟩ := kind?_parent hbytes h hnil
    exact .inr ⟨.directory, by rw [perform_kind? w hhead, hkind]⟩

/-- Nothing is made of a path without letters. -/
theorem makeDirectories_nil (fuel : Nat) :
    perform w (makeDirectories fuel []) = (.error (.file [] .absent), w) := by
  rw [makeDirectories_of_parent fuel (.inl rfl)]
  rfl

/-- Directories are made in the tree alone, whatever was reported. -/
theorem makeDirectories_eq {fuel : Nat} {path : Text} {result : Except Failure Unit}
    {tree : FileTree} {events : List Event}
    (h : perform w (makeDirectories fuel path) = (result, Workspace.mk tree events)) :
    events = w.events ∧ w.tree.Grown tree ∧ ∀ events',
      perform (Workspace.mk w.tree events') (makeDirectories fuel path) =
        (result, ⟨tree, events'⟩) := by
  obtain ⟨result', tree', hgrown, hbuilt⟩ := makeDirectories_builds fuel path w.tree
  obtain ⟨rfl, hw⟩ := Prod.mk.inj ((hbuilt w.events).symm.trans h)
  obtain ⟨rfl, rfl⟩ := Workspace.mk.inj hw
  exact ⟨rfl, hgrown, hbuilt⟩

/-! ## Writing the script -/

theorem ofString_writable {pieces : List Text} (h : pieces.any (·.string?.isNone) = false) :
    Text.ofString (writable pieces) = pieces.flatten := by
  induction pieces with
  | nil => rfl
  | cons piece rest ih =>
    rw [List.any_cons, Bool.or_eq_false_iff] at h
    cases hpiece : piece.string? with
    | none => simp [hpiece] at h
    | some s =>
      rw [writable, hpiece, List.flatten_cons]
      dsimp only
      rw [Text.ofString_append, ih h.2, Text.string?_eq_some_iff.1 hpiece]

theorem no_half_of_flatten {pieces : List Text} {s : String}
    (h : Text.ofString s = pieces.flatten) : pieces.any (·.string?.isNone) = false := by
  induction pieces generalizing s with
  | nil => rfl
  | cons piece rest ih =>
    obtain ⟨s₁, s₂, rfl, hrest, -⟩ := Text.exists_of_append_eq_ofString h.symm
    rw [List.any_cons, Text.string?_ofString, ih hrest.symm]
    rfl

theorem writable_eq_iff {pieces : List Text} {content : String} :
    pieces.any (·.string?.isNone) = false ∧ writable pieces = content ↔
      Text.ofString content = pieces.flatten := by
  constructor
  · rintro ⟨hwhole, rfl⟩
    exact ofString_writable hwhole
  · intro h
    have hwhole := no_half_of_flatten h
    exact ⟨hwhole, Text.ofString_injective ((ofString_writable hwhole).trans h.symm)⟩

/-- The text of a script, and the path of its file, below a directory that was made. -/
structure Prepared (w : Workspace) (directory : Text) (a : Answer) (made : FileTree)
    (file : Path.Bytes) (content : String) : Prop where
  made : perform w (makeDirectories directory.length directory) = (.ok (), ⟨made, w.events⟩)
  file : Path.bytes? (Path.join directory (a.outputTable.display ++ ".hql")) = some file
  content : Text.ofString content =
    a.statements.createTable ++ "\n\n" ++ a.statements.loadData ++ "\n"

theorem Prepared.grown {directory : Text} {a : Answer} {made : FileTree} {file : Path.Bytes}
    {content : String} (h : Prepared w directory a made file content) : w.tree.Grown made := by
  obtain ⟨-, hgrown, -⟩ := makeDirectories_eq h.made
  exact hgrown

theorem write_store_eq_ok {file : Path.Bytes} {content : String} :
    (FileStore.write file content : StateM Workspace (Except FileFault Unit)) w = (.ok (), w') ↔
      ∃ t', w.tree.write file content = .ok t' ∧ w' = ⟨t', w.events⟩ := by
  show Workspace.change _ w = _ ↔ _
  unfold Workspace.change
  dsimp only
  cases w.tree.write file content with
  | error fault =>
    constructor
    · rintro ⟨⟩
    · rintro ⟨_, ⟨⟩, -⟩
  | ok t' =>
    constructor
    · rintro ⟨⟩
      exact ⟨t', rfl, rfl⟩
    · rintro ⟨_, ⟨⟩, rfl⟩
      rfl

theorem attempt_write_eq_ok {path : Text} {content : String} :
    perform w (attempt path (FileStore.write (m := StateM Workspace) · content)) = (.ok (), w') ↔
      ∃ file, Path.bytes? path = some file ∧
        ∃ t', w.tree.write file content = .ok t' ∧ w' = ⟨t', w.events⟩ := by
  rw [perform_attempt_eq_ok]
  simp only [write_store_eq_ok]

theorem content_eq_flatten (a : Answer) :
    (pieces a).flatten = a.statements.createTable ++ "\n\n" ++ a.statements.loadData ++ "\n" := by
  simp [pieces]

/-- The script is put in its place, and that is reported last. -/
theorem save_eq_ok {directory : Value} {a : Answer} {path : Text} :
    perform w (save directory a) = (.ok path, w') ↔
      ∃ into made file content t', directory = .text into ∧
        Prepared w into a made file content ∧ made.write file content = .ok t' ∧
        path = Path.join into (a.outputTable.display ++ ".hql") ∧
        w' = ⟨t', w.events ++ [.written a.outputTable path]⟩ := by
  unfold save
  constructor
  · intro h
    cases directory with
    | text into =>
      dsimp only at h
      obtain ⟨_, ⟨made, events⟩, hmade, h⟩ := perform_bind_eq_ok.1 h
      obtain ⟨rfl, -⟩ := makeDirectories_eq hmade
      obtain ⟨_, _, hwritten, h⟩ := perform_bind_eq_ok.1 h
      obtain ⟨file, hfile, t', hwrite, rfl⟩ := attempt_write_eq_ok.1 hwritten
      cases hhalf : (pieces a).any (·.string?.isNone) with
      | true =>
        rw [hhalf] at h
        cases h
      | false =>
        have hcontent := writable_eq_iff.1 ⟨hhalf, rfl⟩
        rw [hhalf] at h
        obtain ⟨hpath, rfl⟩ := Prod.mk.inj h
        obtain rfl := Except.ok.inj hpath
        exact ⟨into, made, file, writable (pieces a), t', rfl,
          ⟨hmade, hfile, hcontent.trans (content_eq_flatten a)⟩, hwrite, rfl, rfl⟩
    | _ => cases h
  · rintro ⟨into, made, file, content, t', rfl, ⟨hmade, hfile, hcontent⟩, hwrite, rfl, rfl⟩
    obtain ⟨hhalf, hwritable⟩ := writable_eq_iff.2 (hcontent.trans (content_eq_flatten a).symm)
    have hput : perform (Workspace.mk made w.events)
        (attempt (Path.join into (a.outputTable.display ++ ".hql"))
          (FileStore.write (m := StateM Workspace) · content)) = (.ok (), ⟨t', w.events⟩) :=
      attempt_write_eq_ok.2 ⟨file, hfile, t', hwrite, rfl⟩
    dsimp only
    rw [perform_bind_of_ok hmade, hwritable, perform_bind_of_ok hput, hhalf]
    rfl

/-- What was reported before makes no difference to the saving. -/
theorem save_of_events {directory : Value} {a : Answer} {path : Text} {events : List Event}
    (h : (perform (Workspace.mk t events) (save directory a)).1 = .ok path)
    (events' : List Event) :
    ∃ w', perform (Workspace.mk t events') (save directory a) = (.ok path, w') := by
  obtain ⟨into, made, file, content, t', hinto, hprepared, hwrite, hpath, -⟩ :=
    save_eq_ok.1 (Prod.ext h rfl)
  obtain ⟨-, -, hmade⟩ := makeDirectories_eq hprepared.made
  exact ⟨_, save_eq_ok.2 ⟨into, made, file, content, t', hinto,
    ⟨hmade events', hprepared.file, hprepared.content⟩, hwrite, hpath, rfl⟩⟩

/-- Once the directory is there, the script is saved again, and nothing changes. -/
theorem save_again {into : Text} {a : Answer} {made t' : FileTree} {file d : Path.Bytes}
    {content : String} (hprepared : Prepared w into a made file content)
    (hwrite : made.write file content = .ok t') (hinto : Path.bytes? into = some d)
    (hdirectory : t'.kind? d = some .directory) (events : List Event) :
    ∃ t'' : FileTree, (∀ place, t''.entry? place = t'.entry? place) ∧
      perform (Workspace.mk t' events) (save (.text into) a) =
        (.ok (Path.join into (a.outputTable.display ++ ".hql")),
          ⟨t'', events ++ [.written a.outputTable
            (Path.join into (a.outputTable.display ++ ".hql"))]⟩) := by
  obtain ⟨t'', hwrite', hsame⟩ := FileTree.write_again hwrite
  have hmade : perform (Workspace.mk t' events) (makeDirectories into.length into) =
      (.ok (), ⟨t', events⟩) :=
    makeDirectories_of_directory (w := ⟨t', events⟩) hinto hdirectory _
  exact ⟨t'', hsame, save_eq_ok.2 ⟨into, t', file, content, t'', rfl,
    ⟨hmade, hprepared.file, hprepared.content⟩, hwrite', rfl, rfl⟩⟩

/-! ## Scripts below their directory -/

theorem isRooted_name (table : Text) :
    Path.isRooted (table ++ Text.ofString ".hql") = Path.isRooted table := by
  cases table <;> rfl

/-- The path of a script begins with its directory, unless the table starts from the root. -/
theorem Prepared.begins {into : Text} {a : Answer} {made : FileTree} {file : Path.Bytes}
    {content : String} (h : Prepared w into a made file content)
    (htable : Path.isRooted a.outputTable.display = false) :
    ∃ d rest name : Path.Bytes, Path.bytes? into = some d ∧ d ≠ [] ∧ file = d ++ rest ∧
      Path.Bytes.Meets d rest ∧
      Path.bytes? (a.outputTable.display ++ ".hql") = some name ∧ rest.parts = name.parts := by
  obtain ⟨behind, hjoin, hmeets, hbehind⟩ :=
    Path.join_begins into ((isRooted_name a.outputTable.display).trans htable)
  have hfile := h.file
  rw [hjoin] at hfile
  obtain ⟨d, rest, hd, hrest, rfl⟩ := Path.bytes?_append_eq_some.1 hfile
  have hne : d ≠ [] := by
    rintro rfl
    have hmade := h.made
    rw [Path.bytes?_eq_some_nil.1 hd, makeDirectories_nil] at hmade
    cases hmade
  refine ⟨d, rest, ?_⟩
  rcases hbehind with rfl | rfl
  · exact ⟨rest, hd, hne, rfl, hmeets.bytes hd hrest, hrest, rfl⟩
  · obtain ⟨slash, name, hslash, hname, rfl⟩ := Path.bytes?_cons_eq_some.1 hrest
    obtain rfl := Option.some.inj hslash
    exact ⟨name, hd, hne, rfl, hmeets.bytes hd hrest, hname, Path.Bytes.parts_slash name⟩

/-- The directory of a script that was written is there, and the way to the script goes by it. -/
theorem Prepared.directory {into : Text} {a : Answer} {made t' : FileTree} {file : Path.Bytes}
    {content : String} (h : Prepared w into a made file content)
    (hwrite : made.write file content = .ok t')
    (htable : Path.isRooted a.outputTable.display = false) :
    ∃ d, Path.bytes? into = some d ∧ t'.kind? d = some .directory := by
  obtain ⟨d, rest, name, hinto, hd, rfl, hmeets, hname, hparts⟩ := h.begins htable
  have hletter : UInt8.ofNat 'h'.toNat ∈ name :=
    (Path.mem_bytes? (by decide) hname).2 (List.mem_append_right _ (by decide))
  have hrest : rest.parts ≠ [] := hparts ▸ Path.Bytes.parts_ne_nil hletter (by decide)
  obtain ⟨place, last, hlocate, -⟩ := FileTree.write_eq_ok.1 hwrite
  obtain ⟨-, q, -, hwalk, -⟩ := FileTree.walk_of_locate_append hd hmeets hrest hlocate
  exact ⟨d, hinto, FileTree.kind?_eq_directory.2 ⟨(FileTree.usable_of_locate hlocate).beginning hd,
    q, FileTree.walk_mono (FileTree.stands_write hwrite) hwalk⟩⟩

end HiveTable.Script
