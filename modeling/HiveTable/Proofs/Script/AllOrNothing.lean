import HiveTable.Proofs.CommandLine
import HiveTable.Proofs.Script.Outcome
import HiveTable.Yaml.Document

/-!
# Scripts are written as a whole or not at all

A run that fails before it writes has changed no file and no directory. A run that returns has
written the script and nothing else, and it can be made again with the same result
(`all_or_nothing`). For that the directory of the script must be there afterwards, and the
configuration must not have been replaced by the script (`made_once`).
-/

namespace HiveTable.Script

/-- What a run that returned leaves behind: the script in its place, with the report of it at the
end, and otherwise no file that is new or changed. -/
structure Leaves (w : Workspace) (script : Script) (w' : Workspace) (place : List Path.Bytes) :
    Prop where
  located : ∃ file, Path.bytes? script.path = some file ∧ w'.tree.resolve file = .ok place
  content : ∃ content : String, w'.tree.entry? place = some (.file content) ∧
    Text.ofString content = script.answer.statements.createTable ++ "\n\n" ++
      script.answer.statements.loadData ++ "\n"
  others : ∀ other, other ≠ place → ∀ text,
    w'.tree.entry? other = some (.file text) ↔ w.tree.entry? other = some (.file text)
  directories : w.tree.Stands w'.tree
  reported : ∃ events, (∀ e ∈ events, ¬ e.IsWritten) ∧
    w'.events = w.events ++ events ++ [.written script.answer.outputTable script.path]

/-- The path of a directory. -/
def IsDirectory (t : FileTree) (v : Value) : Prop :=
  ∃ path d, v = .text path ∧ Path.bytes? path = some d ∧ t.kind? d = some .directory

theorem Returned.leaves {clock : Moment} {w w' : Workspace} {fields : Entries Value}
    {given : Value} {script : Script} {into : Text} {made : FileTree} {file : Path.Bytes}
    {content : String}
    (h : Returned clock w fields given script w' into made file content) :
    ∃ place, w'.tree.resolve file = .ok place ∧ Leaves w script w' place := by
  obtain ⟨hstands, place, hresolve, hentry, hothers⟩ := h.others
  exact ⟨place, hresolve, ⟨⟨file, h.bytes, hresolve⟩, ⟨content, hentry, h.prepared.content⟩,
    hothers, hstands, _, answered_not_written clock fields, h.events⟩⟩

/-- If a run fails before the script is written, it leaves the tree as it was and reports no script.
If it returns, it leaves the script behind. The same configuration then makes the same script again
and changes nothing, if the directory of the script is there, as it always is unless the table is
named by a path from the root; and so does the whole run, if the configuration is not where the
script is. The program succeeds if its run returns, and when it shows its help. -/
theorem all_or_nothing (load : Yaml.Loader) (clock : Moment) (w : Workspace) :
    (∀ path given f w', perform w (config load path >>= respond clock) = (.error f, w') →
      w'.tree = w.tree ∧
        (∃ events, (∀ e ∈ events, ¬ e.IsWritten) ∧ w'.events = w.events ++ events) ∧
        perform w (execute load clock path given) = (.error f, w')) ∧
    (∀ path given script w', perform w (execute load clock path given) = (.ok script, w') →
      ∃ fields place, perform w (config load path) = (.ok fields, w) ∧ Leaves w script w' place ∧
        (Path.isRooted script.answer.outputTable.display = false →
          IsDirectory w'.tree (directoryOf fields given)) ∧
        (IsDirectory w'.tree (directoryOf fields given) →
          (∃ w'', perform w' (make clock fields given) = (.ok script, w'') ∧
            ∀ other, w''.tree.entry? other = w'.tree.entry? other) ∧
          (w.tree.resolve path ≠ .ok place →
            ∃ w'', perform w' (execute load clock path given) = (.ok script, w'') ∧
              ∀ other, w''.tree.entry? other = w'.tree.entry? other))) ∧
    ∀ arguments w',
      (∃ out, perform w (CommandLine.run load clock arguments) = (.ok out, w') ∧ out.exit = 0) ↔
        (CommandLine.parse arguments = .error .help ∧ w' = w) ∨
        ∃ path settings script, CommandLine.parse arguments = .ok (path, settings) ∧
          perform w (execute load clock path settings.directory) = (.ok script, w') := by
  refine ⟨fun path given f w' => fails_before load clock w path given, ?_,
    fun arguments w' => CommandLine.exit_eq_zero⟩
  intro path given script w' h
  obtain ⟨fields, hconfig, hmake⟩ := execute_eq_ok.1 h
  obtain ⟨into, made, file, content, hreturned⟩ := make_returned hmake
  obtain ⟨place, hresolve, hleaves⟩ := hreturned.leaves
  refine ⟨fields, place, hconfig, hleaves, fun htable => ?_, ?_⟩
  · obtain ⟨d, hd, hkind⟩ := hreturned.prepared.directory hreturned.written htable
    exact ⟨into, d, hreturned.directory, hd, hkind⟩
  · rintro ⟨into', d, hinto, hd, hkind⟩
    obtain rfl := Value.text.inj (hreturned.directory.symm.trans hinto)
    obtain ⟨w'', hagain, hsame⟩ := hreturned.again ⟨d, hd, hkind⟩
    refine ⟨⟨w'', hagain, hsame⟩, fun hplace => ⟨w'', ?_, hsame⟩⟩
    rw [← hresolve] at hplace
    exact execute_eq_ok.2 ⟨fields, hreturned.config_again hconfig hplace, hagain⟩

/-- A run over an ordinary configuration returns, and once more with the same result. -/
theorem all_or_nothing_twice :
    let clock : Moment := ⟨⟨2024, 1, 1⟩, 0, 0, 0, 0, none⟩
    let w : Workspace := ⟨.ofFiles [] [("t.yaml", "input_table: t\n")], []⟩
    ∃ script w' w'', perform w (execute Yaml.load clock "t.yaml" .null) = (.ok script, w') ∧
      Leaves w script w' ["outputs", "t.hql"] ∧
      perform w' (execute Yaml.load clock "t.yaml" .null) = (.ok script, w'') ∧
      ∀ other, w''.tree.entry? other = w'.tree.entry? other := by
  intro clock w
  obtain ⟨script, w', hrun, hends⟩ := seen_eq_some
    (show seen (fun script w' => (script.path, Path.isRooted script.answer.outputTable.display,
        (w'.tree.resolve "outputs/t.hql").toOption))
          (perform w (execute Yaml.load clock "t.yaml" .null)) =
        some (Text.ofString "outputs/t.hql", false,
          some (["outputs", "t.hql"] : List Path.Bytes)) by decide +kernel)
  obtain ⟨hpath, hends⟩ := Prod.mk.inj hends
  obtain ⟨hrooted, hplace⟩ := Prod.mk.inj hends
  have hconfig : (w.tree.resolve "t.yaml").toOption =
      some (["t.yaml"] : List Path.Bytes) := by decide +kernel
  obtain ⟨fields, place, -, hleaves, hdirectory, hagain⟩ :=
    (all_or_nothing Yaml.load clock w).2.1 _ _ _ _ hrun
  obtain rfl : place = ["outputs", "t.hql"] := by
    obtain ⟨file, hfile, hresolve⟩ := hleaves.located
    rw [hpath, Path.bytes?_ofString] at hfile
    obtain rfl := Option.some.inj hfile
    exact Except.ok.inj (hresolve.symm.trans (ok_of_toOption hplace))
  obtain ⟨w'', hsecond, hsame⟩ := (hagain (hdirectory hrooted)).2 fun hsame => by
    rw [hsame] at hconfig
    exact absurd (Option.some.inj hconfig) (by decide)
  exact ⟨script, w', w'', hrun, hleaves, hsecond, hsame⟩

/-- A script that replaces its configuration is no configuration for a second run. And where the
directory of the script is `a/../f/.`, with a file `f` and nothing at `a`, the first run makes `a`
and goes on, because the script lies elsewhere; after that the directory is known to be none. -/
theorem made_once :
    let clock : Moment := ⟨⟨2024, 1, 1⟩, 0, 0, 0, 0, none⟩
    let alone : Workspace := ⟨.ofFiles [] [("t.hql", "input_table: t\n")], []⟩
    let beside : Workspace := ⟨.ofFiles [] [("t.yaml",
      "\x7binput_table: t, output_table: /x, output_dir: a/../f/.\x7d"), ("f", "")], []⟩
    (∃ script w' f,
      perform alone (execute Yaml.load clock "./t.hql" (.text ".")) = (.ok script, w') ∧
      (perform w' (execute Yaml.load clock "./t.hql" (.text "."))).1 = .error f) ∧
    ∃ fields script w' f, perform beside (config Yaml.load "t.yaml") = (.ok fields, beside) ∧
      perform beside (make clock fields .null) = (.ok script, w') ∧
      (perform w' (make clock fields .null)).1 = .error f := by
  intro clock alone beside
  constructor
  · -- The script is known as a text before it is read as a document.
    obtain ⟨script, w', hrun, hends⟩ := seen_eq_some
      (show seen (fun script _ => (script.path, (Text.chars? (pieces script.answer).flatten).map
          fun content => (mapping "./t.hql" (Yaml.parse (unifyLineEnds content))).isOk))
        (perform alone (execute Yaml.load clock "./t.hql" (.text "."))) =
          some (Text.ofString "./t.hql", some false) by decide +kernel)
    obtain ⟨hpath, hdocument⟩ := Prod.mk.inj hends
    obtain ⟨fields, -, hmake⟩ := execute_eq_ok.1 hrun
    obtain ⟨into, made, file, content, hreturned⟩ := make_returned hmake
    have hbytes := hreturned.bytes
    rw [hpath, Path.bytes?_ofString] at hbytes
    obtain rfl := Option.some.inj hbytes
    have hread := FileTree.read_write hreturned.written
    have hcontent : Text.chars? (pieces script.answer).flatten = some content.toList :=
      Text.chars?_eq_some_iff.2
        ((content_eq_flatten _).trans hreturned.prepared.content.symm)
    rw [hcontent] at hdocument
    obtain ⟨f, hf⟩ := exists_error_of_isOk (Option.some.inj hdocument)
    have hagain : perform w' (config Yaml.load "./t.hql") = (.error f, w') := by
      rw [perform_config_eq, FileTree.kind?_of_read hread, ended_eq_ok.2 hread, ok_bind, document,
        Yaml.load, String.toList_ofList, hf]
      rfl
    exact ⟨script, w', f, hrun, congrArg Prod.fst (perform_bind_of_error hagain)⟩
  · have hends : (perform beside (config Yaml.load "t.yaml")).1.toOption.bind (fun fields =>
        seen (fun _ w' => (perform w' (make clock fields .null)).1.isOk)
          (perform beside (make clock fields .null))) = some false := by
      decide +kernel
    obtain ⟨fields, hfields, hmakes⟩ := Option.bind_eq_some_iff.1 hends
    obtain ⟨script, w', hmake, hagain⟩ := seen_eq_some hmakes
    obtain ⟨f, hf⟩ := exists_error_of_isOk hagain
    have hconfig : perform beside (config Yaml.load "t.yaml") = (.ok fields, beside) :=
      Prod.ext (ok_of_toOption hfields) (by rw [perform_config_eq])
    exact ⟨fields, script, w', f, hconfig, hmake, hf⟩

end HiveTable.Script
