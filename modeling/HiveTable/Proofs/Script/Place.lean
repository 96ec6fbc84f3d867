import HiveTable.Proofs.Request.Declared
import HiveTable.Proofs.Script.Outcome
import HiveTable.Yaml.Document

/-!
# Where scripts lie

The script of a table is the path of its directory joined with the name of the table. So it lies in
that directory under that name as long as no slash is in the name (`place_of_execute`). A table that
is named by a path from the root, or by one that leads back, has its script elsewhere
(`execute_elsewhere`).
-/

namespace HiveTable.Script
variable {load : Yaml.Loader} {clock : Moment} {w w' : Workspace} {fields : Entries Value}
  {given : Value} {script : Script} {into : Text} {made : FileTree} {file : Path.Bytes}
  {content : String}

/-- The file lies in a directory under the name of a table. -/
def LiesIn (t : FileTree) (into table : Text) (place : List Path.Bytes) : Prop :=
  ∃ (d name : Path.Bytes) (q : List Path.Bytes), Path.bytes? into = some d ∧
    t.resolve d = .ok q ∧ Path.bytes? (table ++ ".hql") = some name ∧ place = q ++ [name]

namespace Returned

/-- A name without a slash is looked up in the directory itself. -/
theorem liesIn (h : Returned clock w fields given script w' into made file content)
    (hslash : Path.slash ∉ script.answer.outputTable.display) {place : List Path.Bytes}
    (hplace : w'.tree.resolve file = .ok place) :
    LiesIn w'.tree into script.answer.outputTable.display place := by
  have hrooted : Path.isRooted script.answer.outputTable.display = false := by
    by_contra hstarts
    rw [Bool.not_eq_false] at hstarts
    exact hslash (List.mem_of_mem_head? (beq_iff_eq.1 hstarts))
  have hstands := FileTree.stands_write h.written
  obtain ⟨d, rest, name, hinto, hd, rfl, hmeets, hname, hparts⟩ := h.prepared.begins hrooted
  have hletters : Path.Bytes.slash ∉ name := by
    rw [← Path.slash_mem_bytes? hname, List.mem_append, not_or]
    exact ⟨hslash, by decide⟩
  have hne : name ≠ [] := by
    rintro rfl
    exact List.append_ne_nil_of_right_ne_nil _ (by decide) (Path.bytes?_eq_some_nil.1 hname)
  rw [Path.Bytes.parts_of_not_mem hletters hne] at hparts
  obtain ⟨before, last, hlocate, -⟩ := FileTree.write_eq_ok.1 h.written
  obtain ⟨inner, q, hinner, hwalk, hway⟩ :=
    FileTree.walk_of_locate_append hd hmeets (by simp [hparts]) hlocate
  rw [hparts] at hinner
  obtain ⟨rfl, hlast⟩ := List.append_inj' (show [] ++ [name] = inner ++ [last] from hinner) rfl
  obtain rfl := List.singleton_inj.1 hlast
  obtain rfl := Except.ok.inj hway
  have hfile := FileTree.resolve_of_locate (FileTree.locate_mono hstands hlocate)
  obtain rfl := Except.ok.inj (hplace.symm.trans hfile)
  have husable := (FileTree.usable_of_locate hlocate).beginning hd
  exact ⟨d, name, q, hinto, FileTree.resolve_of_walk husable (FileTree.walk_mono hstands hwalk),
    hname, rfl⟩

/-- The file of a script has no slash in its name. -/
theorem not_mem_of_liesIn (h : Returned clock w fields given script w' into made file content)
    {place : List Path.Bytes} (hplace : w'.tree.resolve file = .ok place)
    (hlies : LiesIn w'.tree into script.answer.outputTable.display place) :
    Path.slash ∉ script.answer.outputTable.display := by
  obtain ⟨before, last, hlocate, -⟩ := FileTree.write_eq_ok.1 h.written
  obtain ⟨-, ⟨hname, -⟩ | ⟨names, _, ⟨⟩, -, hparts, -⟩⟩ := FileTree.locate_eq_ok.1 hlocate
  · cases hname
  have hfile := FileTree.resolve_of_locate
    (FileTree.locate_mono (FileTree.stands_write h.written) hlocate)
  obtain rfl := Except.ok.inj (hplace.symm.trans hfile)
  obtain ⟨d, name, q, -, -, hname, hends⟩ := hlies
  obtain rfl := List.singleton_inj.1 (List.append_inj' hends rfl).2
  have hletters : Path.Bytes.slash ∉ last :=
    Path.Bytes.not_mem_of_mem_parts (hparts ▸ List.mem_append_right _ List.mem_cons_self)
  intro hslash
  exact hletters ((Path.slash_mem_bytes? hname).1 (List.mem_append_left _ hslash))

end Returned

/-- A run that returns has written the script to the path of its directory joined with the name of
the table. The file lies in the directory under that name if and only if the name has no slash. -/
theorem place_of_execute {path : String}
    (h : perform w (execute load clock path given) = (.ok script, w')) :
    ∃ fields into file place content, perform w (config load path) = (.ok fields, w) ∧
      directoryOf fields given = .text into ∧
      script.path = Path.join into (script.answer.outputTable.display ++ ".hql") ∧
      Path.bytes? script.path = some file ∧ w'.tree.resolve file = .ok place ∧
      w'.tree.entry? place = some (.file content) ∧
      (LiesIn w'.tree into script.answer.outputTable.display place ↔
        Path.slash ∉ script.answer.outputTable.display) := by
  obtain ⟨fields, hconfig, hmake⟩ := execute_eq_ok.1 h
  obtain ⟨into, made, file, content, hreturned⟩ := make_returned hmake
  obtain ⟨-, place, hplace, hentry, -⟩ := hreturned.others
  exact ⟨fields, into, file, place, content, hconfig, hreturned.directory, hreturned.path,
    hreturned.bytes, hplace, hentry, hreturned.not_mem_of_liesIn hplace,
    fun hslash => hreturned.liesIn hslash hplace⟩

/-- The script of an ordinary table lies in the directory that is made for scripts. -/
theorem place_of_execute_outputs :
    let clock : Moment := ⟨⟨2024, 1, 1⟩, 0, 0, 0, 0, none⟩
    let w : Workspace := ⟨.ofFiles [] [("t.yaml", "input_table: t\n")], []⟩
    ∃ script w' place, perform w (execute Yaml.load clock "t.yaml" .null) = (.ok script, w') ∧
      w'.tree.resolve "outputs/t.hql" = .ok place ∧ LiesIn w'.tree "outputs" "t" place := by
  intro clock w
  obtain ⟨script, w', hrun, hends⟩ := seen_eq_some
    (show seen (fun script _ => (script.path, script.answer.outputTable.display))
      (perform w (execute Yaml.load clock "t.yaml" .null)) =
        some (Text.ofString "outputs/t.hql", Text.ofString "t") by decide +kernel)
  obtain ⟨hpath, htable⟩ := Prod.mk.inj hends
  have hinto : (perform w (config Yaml.load "t.yaml")).1.toOption.bind
      (fun fields => Options.texts? [directoryOf fields .null]) =
        some [Text.ofString "outputs"] := by
    decide +kernel
  obtain ⟨fields, into, file, place, content, hconfig, hdirectory, -, hfile, hplace, -, hlies⟩ :=
    place_of_execute hrun
  rw [hpath, Path.bytes?_ofString] at hfile
  obtain rfl := Option.some.inj hfile
  rw [hconfig] at hinto
  obtain rfl : into = Text.ofString "outputs" := by
    have hdirectories := Options.texts?_eq_some_iff.1 hinto
    rw [hdirectory] at hdirectories
    simpa using hdirectories
  rw [htable] at hlies
  exact ⟨script, w', place, hrun, hplace, hlies.2 (by decide +kernel)⟩

/-- A table that is named by a path from the root has its script there, and one that is named by a
path that leads back has it beside the directory, which is made all the same. -/
theorem execute_elsewhere :
    let clock : Moment := ⟨⟨2024, 1, 1⟩, 0, 0, 0, 0, none⟩
    let w (table : String) : Workspace := ⟨.ofFiles ["w"] [("t.yaml",
      "\x7binput_table: t, output_dir: out, output_table: " ++ table ++ "\x7d")], []⟩
    (∃ script w', perform (w "/x") (execute Yaml.load clock "t.yaml" .null) = (.ok script, w') ∧
      script.path = Text.ofString "/x.hql" ∧ w'.tree.resolve "/x.hql" = .ok ["x.hql"] ∧
      w'.tree.resolve "out" = .ok ["w", "out"]) ∧
    ∃ script w', perform (w "../t") (execute Yaml.load clock "t.yaml" .null) = (.ok script, w') ∧
      script.path = Text.ofString "out/../t.hql" ∧
      w'.tree.resolve "out/../t.hql" = .ok ["w", "t.hql"] ∧
      w'.tree.resolve "out" = .ok ["w", "out"] := by
  intro clock w
  have hends : ∀ {run : Except Failure Script × Workspace} {file : String}
      {place : List Path.Bytes},
      seen (fun script w => (script.path, (w.tree.resolve file).toOption,
        (w.tree.resolve "out").toOption)) run =
          some (Text.ofString file, some place, some (["w", "out"] : List Path.Bytes)) →
      ∃ script w', run = (.ok script, w') ∧ script.path = Text.ofString file ∧
        w'.tree.resolve file = .ok place ∧ w'.tree.resolve "out" = .ok ["w", "out"] := by
    intro run file place h
    obtain ⟨script, w', hrun, hsee⟩ := seen_eq_some h
    obtain ⟨hpath, hsee⟩ := Prod.mk.inj hsee
    obtain ⟨hfile, hout⟩ := Prod.mk.inj hsee
    exact ⟨script, w', hrun, hpath, ok_of_toOption hfile, ok_of_toOption hout⟩
  exact ⟨hends (by decide +kernel), hends (by decide +kernel)⟩

end HiveTable.Script
