import HiveTable.Proofs.Request
import HiveTable.Proofs.Script.Saving

/-!
# How a run over a configuration ends

A run reads its configuration, answers the request in it and saves the script of the answer. If it
returns, all three succeeded: `Returned` says what was done then, and its consequences are what the
run leaves alone (`others`), that it can be made again (`again`) and that its configuration can be
read again (`config_again`). If it fails before the script is saved, nothing is changed
(`fails_before`). Requests themselves never report that a script was written.
-/

namespace HiveTable

/-! ## What is not reported of a request -/

/-- That a script was written. -/
def Event.IsWritten (e : Event) : Prop := ∃ table path, e = .written table path

namespace Report
variable {α β : Type} {P : Event → Prop}

/-- All events of a report have a property. -/
def Tells (P : Event → Prop) (r : Report α) : Prop := ∀ e ∈ r.events, P e

namespace Tells

protected theorem pure (a : α) : Tells P (pure a) := fun _ h => nomatch h

theorem lift (x : Except Failure α) : Tells P (liftM x) := fun _ h => nomatch h

protected theorem throw (f : Failure) : Tells P (throw f : Report α) := fun _ h => nomatch h

theorem emit {e : Event} (h : P e) : Tells P (emit e) := by
  unfold Report.emit
  split
  · exact List.forall_mem_singleton.2 h
  · exact fun _ h => nomatch h

protected theorem bind {r : Report α} {f : α → Report β} (hr : Tells P r)
    (hf : ∀ a, Tells P (f a)) : Tells P (r >>= f) := by
  cases h : r.result with
  | ok a =>
    rw [bind_of_ok h]
    exact List.forall_mem_append.2 ⟨hr, hf a⟩
  | error e =>
    rw [bind_of_error h]
    exact hr

theorem rescue {r : Report α} {f : Failure → Report α} (hr : Tells P r)
    (hf : ∀ e, Tells P (f e)) : Tells P (r.rescue f) := by
  unfold Report.rescue
  split
  · exact hr
  · exact List.forall_mem_append.2 ⟨hr, hf _⟩

theorem mapM {f : α → Report β} (h : ∀ a, Tells P (f a)) (l : List α) : Tells P (l.mapM f) := by
  induction l with
  | nil => exact .pure []
  | cons a rest ih =>
    rw [List.mapM_cons]
    exact .bind (h a) fun b => .bind ih fun bs => .pure (b :: bs)

end Tells

end Report

namespace Definition
variable (d : Definition) (types : Option (NameMap ColumnInfo))

theorem resolveReport_tells (c : Column) :
    (d.resolveReport types c).Tells (¬ ·.IsWritten) := by
  refine .bind (.lift _) fun _ => .bind (.lift _) fun type => ?_
  split
  · exact .bind (.emit (by rintro ⟨_, _, ⟨⟩⟩)) fun _ => .pure type
  · exact .pure type

theorem generateReport_tells : (d.generateReport types).Tells (¬ ·.IsWritten) := by
  have hcreate : (d.createReport types).Tells (¬ ·.IsWritten) := by
    refine .bind (.lift _) fun columns => .bind (.lift _) fun _ => .bind (.lift _) fun _ => ?_
    refine .bind (.mapM (fun c => ?_) columns) fun typed => .lift _
    exact .bind (d.resolveReport_tells types c) fun type => .pure _
  have hfailure : ∀ f, (d.failureReport f : Report Statements).Tells (¬ ·.IsWritten) := by
    intro f
    unfold failureReport
    split
    · exact .bind (.emit (by rintro ⟨_, _, ⟨⟩⟩)) fun _ => .throw _
    · exact .throw _
  refine .bind (.emit (by rintro ⟨_, _, ⟨⟩⟩)) fun _ => .bind (.rescue ?_ hfailure) fun s => ?_
  · exact .bind hcreate fun create => .bind (.lift _) fun load => .pure _
  · exact .bind (.lift _) fun columns => .bind (.emit (by rintro ⟨_, _, ⟨⟩⟩)) fun _ => .pure s

end Definition

theorem Event.isWritten_unnumbered (e : Event) : e.unnumbered.IsWritten ↔ e.IsWritten := by
  cases e <;> simp [unnumbered, IsWritten]

/-- Requests do not write scripts. -/
theorem Request.answer_not_written (clock : Moment) (request : Value) :
    ∀ e ∈ (answer clock request).2, ¬ e.IsWritten := by
  cases hd : definition clock request with
  | error f =>
    rw [answer, hd]
    cases f with
    | refused r =>
      refine List.forall_mem_singleton.2 ?_
      rintro ⟨_, _, ⟨⟩⟩
    | _ => rintro _ ⟨⟩
  | ok d =>
    obtain ⟨w, hrun, hadvance⟩ := Writer.generate_follows _ (Writer.coherent_new d)
    obtain ⟨new, hevents, hnew⟩ := hadvance.added
    rw [answer_of_definition hd, hrun]
    intro e he
    have hmem : e ∈ new := by simpa [hevents] using he
    have hreported := d.generateReport_tells none e.unnumbered
      (hnew ▸ List.mem_map_of_mem hmem)
    exact (Event.isWritten_unnumbered e).not.1 hreported

namespace Script
variable {load : Yaml.Loader} {w w' : Workspace} {clock : Moment} {path : String} {given : Value}
  {fields : Entries Value}

/-! ## Answers to configurations -/

/-- The answer to a configuration, and what is reported of it. -/
def answered (clock : Moment) (config : Entries Value) : Except Failure Answer × List Event :=
  match request config with
  | .error f => (.error f, [])
  | .ok r => Request.answer clock r

theorem answered_not_written (clock : Moment) (config : Entries Value) :
    ∀ e ∈ (answered clock config).2, ¬ e.IsWritten := by
  unfold answered
  split
  · exact fun _ h => nomatch h
  · exact Request.answer_not_written clock _

theorem perform_reports (w : Workspace) (events : List Event) :
    perform w (events.forM fun e => liftM (FileStore.report (m := StateM Workspace) e)) =
      (.ok (), { w with events := w.events ++ events }) := by
  induction events generalizing w with
  | nil => simp [perform]
  | cons e rest ih =>
    have hfirst : perform w (liftM (FileStore.report (m := StateM Workspace) e)) =
        (.ok (), { w with events := w.events ++ [e] }) := rfl
    refine (perform_bind_of_ok hfirst).trans ?_
    rw [ih, List.append_assoc, List.singleton_append]

theorem perform_respond (w : Workspace) (clock : Moment) (config : Entries Value) :
    perform w (respond clock config) =
      ((answered clock config).1, { w with events := w.events ++ (answered clock config).2 }) := by
  unfold respond answered
  cases hrequest : request config with
  | error f => simp [perform_bind_of_error (perform_lift w (.error f))]
  | ok r =>
    rw [perform_bind_of_ok (perform_lift w (.ok r))]
    dsimp only
    rw [perform_bind_of_ok (perform_reports w _)]
    exact perform_lift _ _

/-- A script is made of an answer, which is then saved. -/
theorem make_eq_ok {script : Script} :
    perform w (make clock fields given) = (.ok script, w') ↔
      (answered clock fields).1 = .ok script.answer ∧
      perform { w with events := w.events ++ (answered clock fields).2 }
        (save (directoryOf fields given) script.answer) = (.ok script.path, w') := by
  unfold make
  constructor
  · intro h
    obtain ⟨answer, w₁, hrespond, h⟩ := perform_bind_eq_ok.1 h
    obtain ⟨saved, w₂, hsaved, h⟩ := perform_bind_eq_ok.1 h
    obtain ⟨hscript, rfl⟩ := Prod.mk.inj h
    obtain rfl := Except.ok.inj hscript
    rw [perform_respond] at hrespond
    obtain ⟨hanswer, rfl⟩ := Prod.mk.inj hrespond
    exact ⟨hanswer, hsaved⟩
  · rintro ⟨hanswer, hsaved⟩
    have hrespond := perform_respond w clock fields
    rw [hanswer] at hrespond
    rw [perform_bind_of_ok hrespond, perform_bind_of_ok hsaved]
    rfl

theorem execute_eq_ok {script : Script} :
    perform w (execute load clock path given) = (.ok script, w') ↔
      ∃ fields, perform w (config load path) = (.ok fields, w) ∧
        perform w (make clock fields given) = (.ok script, w') := by
  unfold execute
  rw [perform_bind_eq_ok]
  constructor
  · rintro ⟨fields, w₁, hconfig, hmake⟩
    have hread := perform_config_eq load w path
    rw [hconfig] at hread
    obtain rfl := (Prod.mk.inj hread).2
    exact ⟨fields, hconfig, hmake⟩
  · rintro ⟨fields, hconfig, hmake⟩
    exact ⟨fields, w, hconfig, hmake⟩

theorem perform_config_eq_ok :
    perform w (config load path) = (.ok fields, w) ↔
      ∃ text, w.tree.read path = .ok text ∧ document load path text = .ok fields := by
  rw [perform_config_eq, Prod.mk.injEq, and_iff_left rfl]
  constructor
  · intro h
    split at h
    · cases h
    · obtain ⟨text, hread, hdocument⟩ := bind_eq_ok.1 h
      exact ⟨text, ended_eq_ok.1 hread, hdocument⟩
  · rintro ⟨text, hread, hdocument⟩
    rw [FileTree.kind?_of_read hread, ended_eq_ok.2 hread, ok_bind, hdocument]
    rfl

/-! ## Runs that return -/

/-- What a run that returned has done: the directory was made, then the script was written. -/
structure Returned (clock : Moment) (w : Workspace) (fields : Entries Value) (given : Value)
    (script : Script) (w' : Workspace) (into : Text) (made : FileTree) (file : Path.Bytes)
    (content : String) : Prop where
  answer : (answered clock fields).1 = .ok script.answer
  directory : directoryOf fields given = .text into
  prepared : Prepared { w with events := w.events ++ (answered clock fields).2 } into script.answer
    made file content
  path : script.path = Path.join into (script.answer.outputTable.display ++ ".hql")
  written : made.write file content = .ok w'.tree
  events : w'.events = w.events ++ (answered clock fields).2 ++
    [.written script.answer.outputTable script.path]

theorem make_returned {script : Script}
    (h : perform w (make clock fields given) = (.ok script, w')) :
    ∃ into made file content, Returned clock w fields given script w' into made file content := by
  obtain ⟨hanswer, hsaved⟩ := make_eq_ok.1 h
  obtain ⟨into, made, file, content, t', hinto, hprepared, hwrite, hpath, rfl⟩ :=
    save_eq_ok.1 hsaved
  exact ⟨into, made, file, content, hanswer, hinto, hprepared, hpath, hwrite, rfl⟩

namespace Returned
variable {script : Script} {into : Text} {made : FileTree} {file : Path.Bytes} {content : String}

theorem bytes (h : Returned clock w fields given script w' into made file content) :
    Path.bytes? script.path = some file :=
  h.path ▸ h.prepared.file

/-- Apart from the script all files are as before, and no directory is gone. -/
theorem others (h : Returned clock w fields given script w' into made file content) :
    w.tree.Stands w'.tree ∧ ∃ place, w'.tree.resolve file = .ok place ∧
      w'.tree.entry? place = some (.file content) ∧
      ∀ other, other ≠ place → ∀ text,
        w'.tree.entry? other = some (.file text) ↔ w.tree.entry? other = some (.file text) := by
  have hgrown := h.prepared.grown
  obtain ⟨place, hresolve, hentry, hothers⟩ := FileTree.entry_write h.written
  refine ⟨hgrown.toStands.trans (FileTree.stands_write h.written), place, hresolve, hentry, ?_⟩
  intro other hother text
  rw [hothers other hother]
  exact hgrown.file other text

/-- The same configuration makes the same script again, and nothing changes, once the directory
is there. -/
theorem again (h : Returned clock w fields given script w' into made file content)
    (hdirectory : ∃ d, Path.bytes? into = some d ∧ w'.tree.kind? d = some .directory) :
    ∃ w'', perform w' (make clock fields given) = (.ok script, w'') ∧
      ∀ place, w''.tree.entry? place = w'.tree.entry? place := by
  obtain ⟨d, hinto, hkind⟩ := hdirectory
  obtain ⟨t'', hsame, hsaved⟩ := save_again h.prepared h.written hinto hkind
    (w'.events ++ (answered clock fields).2)
  refine ⟨⟨t'', w'.events ++ (answered clock fields).2 ++
    [.written script.answer.outputTable script.path]⟩, make_eq_ok.2 ⟨h.answer, ?_⟩, hsame⟩
  rw [h.directory, h.path]
  exact hsaved

/-- A configuration that the script did not replace is read again. -/
theorem config_again (h : Returned clock w fields given script w' into made file content)
    (hconfig : perform w (config load path) = (.ok fields, w))
    (hplace : w.tree.resolve path ≠ w'.tree.resolve file) :
    perform w' (config load path) = (.ok fields, w') := by
  obtain ⟨hstands, place, hresolve, -, hothers⟩ := h.others
  obtain ⟨text, hread, hdocument⟩ := perform_config_eq_ok.1 hconfig
  refine perform_config_eq_ok.2 ⟨text, FileTree.read_eq_ok.2 ?_, hdocument⟩
  refine FileTree.find_file_mono hstands (FileTree.read_eq_ok.1 hread) fun q hq hentry => ?_
  have hother : q ≠ place := by
    rintro rfl
    exact hplace (hq.trans hresolve.symm)
  exact (hothers q hother text).2 hentry

end Returned

/-- What is seen of a run that returns, and of the place that it leaves. -/
def seen {α : Type} (see : Script → Workspace → α) : Except Failure Script × Workspace → Option α
  | (.ok script, w) => some (see script w)
  | (.error _, _) => none

theorem seen_eq_some {α : Type} {see : Script → Workspace → α} {a : α}
    {run : Except Failure Script × Workspace} (h : seen see run = some a) :
    ∃ script w, run = (.ok script, w) ∧ see script w = a := by
  rcases run with ⟨f | script, w⟩
  · cases h
  · exact ⟨script, w, rfl, Option.some.inj h⟩

/-! ## Runs that fail -/

/-- A script is not made if the configuration has no answer, or if the answer is not saved. -/
theorem make_eq_error {f : Failure} (h : (perform w (make clock fields given)).1 = .error f) :
    (answered clock fields).1 = .error f ∨
      ∃ (a : Answer) (w₁ : Workspace), (answered clock fields).1 = .ok a ∧
        (perform w₁ (save (directoryOf fields given) a)).1 = .error f := by
  unfold make at h
  rw [perform_bind, perform_respond] at h
  cases hanswer : (answered clock fields).1 with
  | error e =>
    rw [hanswer] at h
    exact .inl (congrArg _ (Except.error.inj h))
  | ok a =>
    rw [hanswer] at h
    dsimp only at h
    refine .inr ⟨a, { w with events := w.events ++ (answered clock fields).2 }, rfl, ?_⟩
    rw [perform_bind] at h
    split at h
    · cases h
    · rename_i hsave
      rw [hsave]
      exact congrArg _ (Except.error.inj h)

/-- A run that fails before the script is written. -/
theorem fails_before (load : Yaml.Loader) (clock : Moment) (w : Workspace) (path : String)
    (given : Value) {f : Failure}
    (h : perform w (config load path >>= respond clock) = (.error f, w')) :
    w'.tree = w.tree ∧
      (∃ events, (∀ e ∈ events, ¬ e.IsWritten) ∧ w'.events = w.events ++ events) ∧
      perform w (execute load clock path given) = (.error f, w') := by
  unfold execute
  rw [perform_bind] at h ⊢
  have hconfig := perform_config_eq load w path
  rcases hread : perform w (config load path) with ⟨g | fields, w₁⟩
  · rw [hread] at h hconfig
    obtain ⟨hg, rfl⟩ := Prod.mk.inj h
    obtain rfl := Except.error.inj hg
    obtain ⟨-, rfl⟩ := Prod.mk.inj hconfig
    exact ⟨rfl, ⟨[], by simp, by simp⟩, rfl⟩
  · rw [hread] at h hconfig
    obtain ⟨-, rfl⟩ := Prod.mk.inj hconfig
    dsimp only at h ⊢
    refine ⟨?_, ?_, perform_bind_of_error h⟩
    all_goals
      rw [perform_respond] at h
      obtain ⟨-, rfl⟩ := Prod.mk.inj h
    · rfl
    · exact ⟨_, answered_not_written clock fields, rfl⟩

end Script

end HiveTable
