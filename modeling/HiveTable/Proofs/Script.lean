import HiveTable.Proofs.Files
import HiveTable.Proofs.Request
import HiveTable.Script

/-!
# Runs over files

A script is written to a tree of files, which may fail in ways that no request is to blame for. If
the directory is a text, these are the only failures that the writing ends in (`save_fails`): one of
its paths is `Misused`, or what is written has no bytes.
-/

namespace HiveTable

namespace FileTree
variable {t : FileTree} {path : Path.Bytes}

/-! ## Names that are none -/

theorem enter_fails (t : FileTree) (place : List Path.Bytes) (name : Path.Bytes) :
    FailsOnly (· ≠ .badName) (t.enter place name) := by
  unfold enter
  split
  · exact .ok _
  split
  · exact .ok _
  split
  · exact .error nofun
  split
  · exact .ok _
  · exact .error nofun
  · exact .error nofun

/-- A path without a null character may lead nowhere, but is none that no file can have. -/
theorem locate_fails (h : 0 ∉ path) : FailsOnly (· ≠ .badName) (t.locate path) := by
  have hnul : path.contains 0 = false := by simpa using h
  by_cases hempty : path = []
  · subst hempty
    exact FailsOnly.error (e := FileFault.absent) nofun
  by_cases hlong : path.length > maxPath
  · have hfails : t.locate path = .error .nameTooLong := by
      unfold locate
      simp only [hnul, List.isEmpty_eq_false_iff.2 hempty, hlong, if_true]
      rfl
    rw [hfails]
    exact .error nofun
  rw [locate_of_usable ⟨h, hempty, Nat.not_lt.1 hlong⟩]
  split
  · exact .ok _
  refine .bind (.foldlM t.enter_fails _ _) fun place => ?_
  split
  · exact .bind (t.enter_fails _ _) fun _ => .ok _
  split
  · exact .error nofun
  · exact .ok _

theorem makeDirectory_fails (h : 0 ∉ path) : FailsOnly (· ≠ .badName) (t.makeDirectory path) := by
  refine .bind (locate_fails h) fun (place, name?) => ?_
  cases name? with
  | none => exact .error nofun
  | some name =>
    dsimp only
    split
    · exact .error nofun
    · exact .ok _

theorem write_fails (h : 0 ∉ path) (text : String) :
    FailsOnly (· ≠ .badName) (t.write path text) := by
  refine .bind (locate_fails h) fun (place, name?) => ?_
  cases name? with
  | none => exact .error nofun
  | some name =>
    dsimp only
    split
    · exact .error nofun
    all_goals
      split
      · exact .error nofun
      · exact .ok _

end FileTree

namespace Script
variable {σ α β : Type} {P : Failure → Prop}

/-- How an action ends, and the place that it leaves. -/
def perform (s : σ) (a : Action (StateM σ) α) : Except Failure α × σ := (a.run.run s).run

theorem perform_bind (s : σ) (a : Action (StateM σ) α) (f : α → Action (StateM σ) β) :
    perform s (a >>= f) = match perform s a with
      | (.ok x, s') => perform s' (f x)
      | (.error e, s') => (.error e, s') := by
  simp only [perform, ExceptT.run_bind, StateT.run_bind, Id.run_bind]
  rcases (a.run.run s).run with ⟨_ | x, s'⟩ <;> rfl

theorem perform_bind_of_ok {s s' : σ} {a : Action (StateM σ) α} {x : α}
    {f : α → Action (StateM σ) β} (h : perform s a = (.ok x, s')) :
    perform s (a >>= f) = perform s' (f x) := by
  rw [perform_bind, h]

theorem perform_bind_of_error {s s' : σ} {a : Action (StateM σ) α} {e : Failure}
    {f : α → Action (StateM σ) β} (h : perform s a = (.error e, s')) :
    perform s (a >>= f) = (.error e, s') := by
  rw [perform_bind, h]

theorem perform_bind_eq_ok {s s' : σ} {a : Action (StateM σ) α} {f : α → Action (StateM σ) β}
    {y : β} :
    perform s (a >>= f) = (.ok y, s') ↔
      ∃ x s₁, perform s a = (.ok x, s₁) ∧ perform s₁ (f x) = (.ok y, s') := by
  rw [perform_bind]
  rcases perform s a with ⟨_ | x, s₁⟩ <;> simp

theorem perform_tryCatch (s : σ) (a : Action (StateM σ) α)
    (handle : Failure → Action (StateM σ) α) :
    perform s (tryCatch a handle) = match perform s a with
      | (.ok x, s') => (.ok x, s')
      | (.error e, s') => perform s' (handle e) := by
  simp only [perform, ExceptT.run_tryCatch, StateT.run_bind, Id.run_bind]
  rcases (a.run.run s).run with ⟨_ | x, s'⟩ <;> rfl

theorem perform_tryCatch_of_error {s s' : σ} {a : Action (StateM σ) α} {e : Failure}
    {handle : Failure → Action (StateM σ) α} (h : perform s a = (.error e, s')) :
    perform s (tryCatch a handle) = perform s' (handle e) := by
  rw [perform_tryCatch, h]

theorem perform_store (s : σ) (x : StateM σ α) :
    perform s (liftM x) = (.ok (x s).1, (x s).2) := rfl

theorem perform_lift (s : σ) (r : Except Failure α) :
    perform s (liftM r : Action (StateM σ) α) = (r, s) := rfl

/-- How the use of a path ends. -/
def ended (path : Text) : Except FileFault α → Except Failure α
  | .ok a => .ok a
  | .error .badName => .error .unusable
  | .error fault => .error (.file path fault)

theorem ended_eq_ok {path : Text} {r : Except FileFault α} {a : α} :
    ended path r = .ok a ↔ r = .ok a := by
  rcases r with fault | b
  · cases fault <;> simp [ended]
  · simp [ended]

theorem attempt_of_half {path : Text} (h : Path.bytes? path = none)
    (use : Path.Bytes → StateM σ (Except FileFault α)) :
    attempt path use = throw .unencodable := by
  unfold attempt
  rw [h]

theorem perform_attempt (s : σ) {path : Text} {bytes : Path.Bytes}
    (h : Path.bytes? path = some bytes) (use : Path.Bytes → StateM σ (Except FileFault α)) :
    perform s (attempt path use) = (ended path (use bytes s).1, (use bytes s).2) := by
  unfold attempt
  rw [h]
  dsimp only
  rw [perform_bind, perform_store]
  dsimp only
  cases (use bytes s).1 with
  | ok a => rfl
  | error fault => cases fault <;> rfl

theorem perform_attempt_eq_ok {s s' : σ} {path : Text}
    {use : Path.Bytes → StateM σ (Except FileFault α)} {x : α} :
    perform s (attempt path use) = (.ok x, s') ↔
      ∃ bytes, Path.bytes? path = some bytes ∧ use bytes s = (.ok x, s') := by
  cases hpath : Path.bytes? path with
  | none =>
    rw [attempt_of_half hpath]
    constructor
    · rintro ⟨⟩
    · rintro ⟨_, ⟨⟩, -⟩
  | some bytes =>
    rw [perform_attempt s hpath]
    constructor
    · intro h
      obtain ⟨hended, hstate⟩ := Prod.mk.inj h
      exact ⟨bytes, rfl, Prod.ext (ended_eq_ok.1 hended) hstate⟩
    · rintro ⟨_, ⟨rfl⟩, hused⟩
      rw [hused]
      rfl

/-- Of all failures only those with `P` occur, wherever the action runs. -/
def FailsOnly (P : Failure → Prop) (a : Action (StateM σ) α) : Prop :=
  ∀ s, HiveTable.FailsOnly P (perform s a).1

namespace FailsOnly

protected theorem pure (x : α) : FailsOnly P (pure x : Action (StateM σ) α) := fun _ => .ok x

protected theorem throw {e : Failure} (h : P e) : FailsOnly P (throw e : Action (StateM σ) α) :=
  fun _ => .error h

theorem mono {P' : Failure → Prop} {a : Action (StateM σ) α} (ha : FailsOnly P a)
    (h : ∀ e, P e → P' e) : FailsOnly P' a := fun s e hs => h e (ha s e hs)

/-- What is asked of the place itself is always answered. -/
theorem store (x : StateM σ α) : FailsOnly P (liftM x : Action (StateM σ) α) := fun _ => .ok _

protected theorem bind {a : Action (StateM σ) α} {f : α → Action (StateM σ) β}
    (ha : FailsOnly P a) (hf : ∀ x, FailsOnly P (f x)) : FailsOnly P (a >>= f) := by
  intro s e h
  have hfirst := ha s
  rw [perform_bind] at h
  rcases hrun : perform s a with ⟨e' | x, s'⟩ <;> rw [hrun] at h hfirst
  · obtain rfl := Except.error.inj h
    exact hfirst e' rfl
  · exact hf x s' e h

protected theorem tryCatch {a : Action (StateM σ) α} {handle : Failure → Action (StateM σ) α}
    (ha : FailsOnly P a) (hhandle : ∀ e, P e → FailsOnly P (handle e)) :
    FailsOnly P (tryCatch a handle) := by
  intro s e h
  have hfirst := ha s
  rw [perform_tryCatch] at h
  rcases hrun : perform s a with ⟨e' | x, s'⟩ <;> rw [hrun] at h hfirst
  · exact hhandle e' (hfirst e' rfl) s' e h
  · cases h

theorem ite {c : Prop} [Decidable c] {a b : Action (StateM σ) α} (ha : FailsOnly P a)
    (hb : FailsOnly P b) : FailsOnly P (if c then a else b) := by
  split <;> assumption

end FailsOnly

/-! ## Writing a script -/

/-- A file or a directory cannot be used, or there can be none of this path. -/
inductive Misused (path : Text) : Failure → Prop
  | file {fault : FileFault} (h : fault ≠ .badName) : Misused path (.file path fault)
  | nul (h : .char '\x00' ∈ path) : Misused path .unusable
  | half (h : Path.bytes? path = none) : Misused path .unencodable

theorem attempt_fails {path : Text} {use : Path.Bytes → StateM σ (Except FileFault α)}
    (huse : ∀ bytes s, 0 ∉ bytes → HiveTable.FailsOnly (· ≠ .badName) (use bytes s).1) :
    FailsOnly (Misused path) (attempt path use) := by
  cases hpath : Path.bytes? path with
  | none =>
    rw [attempt_of_half hpath]
    exact .throw (.half hpath)
  | some bytes =>
    intro s
    rw [perform_attempt s hpath]
    cases hused : (use bytes s).1 with
    | ok a => exact .ok a
    | error fault =>
      by_cases hfault : fault = .badName
      · subst hfault
        refine .error (.nul ?_)
        rw [← Path.mem_bytes? (by decide) hpath]
        by_contra hnul
        exact huse bytes s hnul _ hused rfl
      · have hended : ended path (.error fault : Except FileFault α) =
            .error (.file path fault) := by
          cases fault with
          | badName => exact absurd rfl hfault
          | _ => rfl
        rw [hended]
        exact .error (.file hfault)

theorem kind?_fails [FileStore (StateM σ)] (path : Text) :
    FailsOnly P (kind? path : Action (StateM σ) (Option FileKind)) := by
  unfold kind?
  split
  · exact .store _
  · exact .pure none

/-- A change fails as it does in the tree. -/
theorem change_fails {Q : FileFault → Prop} {f : FileTree → Except FileFault FileTree}
    {w : Workspace} (h : HiveTable.FailsOnly Q (f w.tree)) :
    HiveTable.FailsOnly Q (Workspace.change f w).1 := by
  unfold Workspace.change
  split
  · exact .ok ()
  · rename_i fault hfault
    exact .error (h fault hfault)

/-- If a directory cannot be made because one is there, nothing is wrong. -/
theorem makeDirectory_fails (path : Text) :
    FailsOnly (Misused path) (makeDirectory path : Action (StateM Workspace) Unit) := by
  unfold makeDirectory
  refine .tryCatch (attempt_fails fun _ _ h => change_fails (FileTree.makeDirectory_fails h))
    fun e he => ?_
  split
  · exact .bind (kind?_fails path) fun _ => .ite (.throw he) (.pure ())
  · exact .throw he

/-- Some path that begins the path of a directory is misused. -/
def MisusedWithin (into : Text) (f : Failure) : Prop := ∃ path, path <+: into ∧ Misused path f

theorem makeDirectories_fails {into path : Text} (fuel : Nat) (h : path <+: into) :
    FailsOnly (MisusedWithin into)
      (makeDirectories fuel path : Action (StateM Workspace) Unit) := by
  have hmake : ∀ {path : Text}, path <+: into →
      FailsOnly (MisusedWithin into) (makeDirectory path : Action (StateM Workspace) Unit) :=
    fun {path} h => (makeDirectory_fails path).mono fun _ hf => ⟨path, h, hf⟩
  induction fuel generalizing path with
  | zero =>
    unfold makeDirectories
    dsimp only
    refine .ite (.bind (.pure false) fun missing => ?_)
      (.bind (kind?_fails _) fun found => .bind (.pure _) fun missing => ?_)
    all_goals exact .ite (.ite (.pure ()) (hmake h)) (.ite (.pure ()) (hmake h))
  | succ fuel ih =>
    have hparent : (Path.parent path).1 <+: into := by
      obtain ⟨rest, hpath, -⟩ := Path.parent_begins path
      exact .trans ⟨rest, hpath.symm⟩ h
    unfold makeDirectories
    dsimp only
    refine .ite (.bind (.pure false) fun missing => ?_)
      (.bind (kind?_fails _) fun found => .bind (.pure _) fun missing => ?_)
    all_goals
      refine .ite (.bind (.tryCatch (ih hparent) fun e he => ?_) fun _ =>
        .ite (.pure ()) (hmake h)) (.ite (.pure ()) (hmake h))
      -- That the parent is there already is caught.
      split
      · exact .pure ()
      · exact .throw he

/-- Why the script of an answer cannot be put into a directory. -/
inductive Unsaved (into : Text) (a : Answer) : Failure → Prop
  | directory {f : Failure} (h : MisusedWithin into f) : Unsaved into a f
  | script {f : Failure} (h : Misused (Path.join into (a.outputTable.display ++ ".hql")) f) :
    Unsaved into a f
  | content {piece : Text} (h : piece ∈ pieces a) (hhalf : piece.string? = none) :
    Unsaved into a .unencodable

theorem save_fails (into : Text) (a : Answer) :
    FailsOnly (Unsaved into a) (save (.text into) a : Action (StateM Workspace) Text) := by
  unfold save
  refine .bind ((makeDirectories_fails _ (List.prefix_refl into)).mono fun _ => .directory)
    fun _ => ?_
  refine .bind ((attempt_fails fun _ _ h => change_fails (FileTree.write_fails h _)).mono
    fun _ => .script) fun _ => ?_
  split
  · rename_i hany
    obtain ⟨piece, hpiece, hhalf⟩ := List.any_eq_true.1 hany
    exact .throw (.content hpiece (Option.isNone_iff_eq_none.1 hhalf))
  · exact .bind (.store _) fun _ => .pure _

/-! ## Configurations -/

variable {load : Yaml.Loader} {w : Workspace} {path text : String}

theorem perform_kind? (w : Workspace) {path : Text} {bytes : Path.Bytes}
    (h : Path.bytes? path = some bytes) :
    perform w (kind? path) = (.ok (w.tree.kind? bytes), w) := by
  unfold kind?
  rw [h]
  rfl

/-- The configuration is read and nothing else is done. -/
theorem perform_config_eq (load : Yaml.Loader) (w : Workspace) (path : String) :
    perform w (config load path) =
      (if (w.tree.kind? path).isNone then .error (.configAbsent path)
        else ended path (w.tree.read path) >>= document load path, w) := by
  have hbytes := Path.bytes?_ofString path
  have hread : perform w (attempt path FileStore.read) = (ended path (w.tree.read path), w) :=
    perform_attempt w hbytes _
  unfold config
  rw [perform_bind, perform_kind? w hbytes]
  dsimp only
  cases (w.tree.kind? path).isNone with
  | true => rfl
  | false =>
    simp only [Bool.false_eq_true, if_false]
    rw [perform_bind, hread]
    cases ended path (w.tree.read path) with
    | error f => rfl
    | ok text =>
      rw [ok_bind]
      exact perform_lift w _

/-- A file that is read and holds a document is the configuration if that is a mapping. -/
theorem perform_config {v : Value} (hread : w.tree.read path = .ok text)
    (hload : load (String.ofList (unifyLineEnds text.toList)) = .ok v) :
    perform w (config load path) =
      (match v.opened with
        | .mapping fields => .ok fields
        | _ => .error (.refused (.configNotMapping path)), w) := by
  rw [perform_config_eq, FileTree.kind?_of_read hread, ended_eq_ok.2 hread, ok_bind, document,
    hload]
  rfl

theorem request_error {config : Entries Value} {f : Failure} (h : request config = .error f) :
    ∃ r, f = .refused r := by
  unfold request at h
  dsimp only at h
  split at h
  · cases h
  · exact ⟨_, (Except.error.inj h).symm⟩

end Script

end HiveTable
