import HiveTable.CommandLine
import HiveTable.Proofs.Request.Declared
import HiveTable.Proofs.Script.Outcome
import HiveTable.Yaml.Document

/-!
# What the two ways in end with

Over the network a request of the declared types gets the answer or, if it is refused, the class
and the message of the refusal. On the command line a configuration of the declared types ends the
program with a result, good or bad, unless the script of its answer cannot be saved
(`declared_responds`). Values of other types may end both in failures that are no refusals
(`respond_name_not_text`).
-/

namespace HiveTable

namespace Script
variable {clock : Moment} {config : Entries Value}

/-- A configuration whose request has its declared types, and whose directory is a text. -/
structure Declared (config : Entries Value) : Prop where
  request : ∀ request, Script.request config = .ok request → Request.Declared request
  directory : ∀ v, config.field? "output_dir" = some v → ∃ t, v = .text t

theorem Declared.exists_directory (h : Declared config) {given : Value}
    (hgiven : given.IsGivenText) : ∃ into, directoryOf config given = .text into := by
  unfold directoryOf
  split
  · rename_i hpresent
    exact hgiven hpresent
  · cases hfound : config.field? "output_dir" with
    | none => exact ⟨_, rfl⟩
    | some v => exact h.directory v hfound

theorem Declared.refused (h : Declared config) {f : Failure}
    (hanswer : (answered clock config).1 = .error f) : ∃ r, f = .refused r := by
  unfold answered at hanswer
  cases hrequest : Script.request config with
  | error e =>
    rw [hrequest] at hanswer
    obtain rfl := Except.error.inj hanswer
    exact request_error hrequest
  | ok request =>
    rw [hrequest] at hanswer
    rcases Request.answer_of_declared clock (h.request request hrequest) with ⟨a, ha, -⟩ | ⟨r, hr⟩
    · exact nomatch ha.symm.trans hanswer
    · exact ⟨r, Except.error.inj (hanswer.symm.trans hr)⟩

/-- A run over a configuration of the declared types is refused, or its script is not saved. -/
theorem execute_fails {load : Yaml.Loader} {w : Workspace} {path text : String}
    {v given : Value} (hread : w.tree.read path = .ok text)
    (hload : load (String.ofList (unifyLineEnds text.toList)) = .ok v)
    (hdeclared : ∀ fields, v.opened = .mapping fields → Declared fields)
    (hgiven : given.IsGivenText) {f : Failure}
    (h : (perform w (execute load clock path given)).1 = .error f) :
    (∃ r, f = .refused r) ∨ ∃ fields into a, v.opened = .mapping fields ∧
      directoryOf fields given = .text into ∧ (answered clock fields).1 = .ok a ∧
      Unsaved into a f := by
  unfold execute at h
  rw [perform_bind, perform_config hread hload] at h
  cases hopened : v.opened with
  | mapping fields =>
    rw [hopened] at h
    have hfields := hdeclared fields hopened
    obtain ⟨into, hinto⟩ := hfields.exists_directory hgiven
    rcases make_eq_error h with hanswer | ⟨a, w₁, hanswer, hsave⟩
    · exact .inl (hfields.refused hanswer)
    · rw [hinto] at hsave
      exact .inr ⟨fields, into, a, rfl, hinto, hanswer, save_fails into a w₁ f hsave⟩
  | _ =>
    rw [hopened] at h
    exact .inl ⟨_, (Except.error.inj h).symm⟩

end Script

namespace CommandLine

variable {load : Yaml.Loader} {clock : Moment} {w w' : Workspace} {arguments : List String}

theorem Settings.directory_isGivenText (s : Settings) : s.directory.IsGivenText := by
  unfold directory
  cases s.outputDir with
  | none => exact fun h => by cases h
  | some directory => exact fun _ => ⟨directory, rfl⟩

theorem run_of_stop (load : Yaml.Loader) (clock : Moment) (w : Workspace) {stop : Stop}
    (h : parse arguments = .error stop) :
    ∃ out, Script.perform w (run load clock arguments) = (.ok out, w) ∧
      (out.exit = 0 ↔ stop = .help) := by
  unfold run
  rw [h]
  cases stop <;> exact ⟨_, rfl, by simp⟩

theorem run_of_parse {path : String} {settings : Settings}
    (h : parse arguments = .ok (path, settings)) :
    Script.perform w (run load clock arguments) =
      match Script.perform w (Script.execute load clock path settings.directory) with
      | (.ok script, w') => (.ok (done settings.print script), w')
      | (.error f, w') =>
        ((messageOf? f).elim (.error f) fun message => .ok (failed message), w') := by
  unfold run
  rw [h]
  dsimp only
  rw [Script.perform_tryCatch, Script.perform_bind]
  rcases Script.perform w (Script.execute load clock path settings.directory) with ⟨f | script, w'⟩
  · dsimp only
    cases messageOf? f <;> rfl
  · rfl

/-- The program succeeds if the run over its configuration returns, and when it shows its help. -/
theorem exit_eq_zero :
    (∃ out, Script.perform w (run load clock arguments) = (.ok out, w') ∧ out.exit = 0) ↔
      (parse arguments = .error .help ∧ w' = w) ∨
      ∃ path settings script, parse arguments = .ok (path, settings) ∧
        Script.perform w (Script.execute load clock path settings.directory) =
          (.ok script, w') := by
  cases hparse : parse arguments with
  | error stop =>
    obtain ⟨out, hrun, hexit⟩ := run_of_stop load clock w hparse
    rw [hrun]
    constructor
    · rintro ⟨_, ⟨⟩, hzero⟩
      exact .inl ⟨congrArg _ (hexit.1 hzero), rfl⟩
    · rintro (⟨⟨⟩, rfl⟩ | ⟨_, _, _, ⟨⟩, -⟩)
      exact ⟨out, rfl, hexit.2 rfl⟩
  | ok p =>
    obtain ⟨path, settings⟩ := p
    rw [run_of_parse hparse]
    constructor
    · rintro ⟨out, hrun, hexit⟩
      refine .inr ⟨path, settings, ?_⟩
      rcases hexecute : Script.perform w (Script.execute load clock path settings.directory) with
        ⟨f | script, w₁⟩
      · rw [hexecute] at hrun
        dsimp only at hrun
        cases hmessage : messageOf? f <;> rw [hmessage] at hrun
        · cases hrun
        · obtain ⟨hout, -⟩ := Prod.mk.inj hrun
          obtain rfl := Except.ok.inj hout
          cases hexit
      · rw [hexecute] at hrun
        obtain ⟨-, rfl⟩ := Prod.mk.inj hrun
        exact ⟨script, rfl, rfl⟩
    · rintro (⟨⟨⟩, -⟩ | ⟨_, _, script, ⟨⟩, hexecute⟩)
      rw [hexecute]
      exact ⟨_, rfl, rfl⟩

theorem exit_le_one {path : String} {settings : Settings}
    (hparse : parse arguments = .ok (path, settings)) {out : Output}
    (h : (Script.perform w (run load clock arguments)).1 = .ok out) :
    out.exit = 0 ∨ out.exit = 1 := by
  rw [run_of_parse hparse] at h
  split at h
  · obtain rfl := Except.ok.inj h
    exact .inl rfl
  · rename_i f _ _
    cases hmessage : messageOf? f <;> rw [hmessage] at h
    · cases h
    · obtain rfl := Except.ok.inj h
      exact .inr rfl

/-- A failure that ends the program is one of its run that is not shown. -/
theorem run_eq_error {path : String} {settings : Settings}
    (hparse : parse arguments = .ok (path, settings)) {f : Failure}
    (h : (Script.perform w (run load clock arguments)).1 = .error f) :
    (Script.perform w (Script.execute load clock path settings.directory)).1 = .error f ∧
      messageOf? f = none := by
  rw [run_of_parse hparse] at h
  split at h
  · cases h
  · rename_i e _ hexecute
    rw [hexecute]
    cases hmessage : messageOf? e <;> rw [hmessage] at h
    · obtain rfl := Except.error.inj h
      exact ⟨rfl, hmessage⟩
    · cases h

end CommandLine

/-- A request of the declared types gets the answer, or the class and the message of a refusal. A
configuration file that holds a document of the declared types ends the program with a result, or
the configuration has an answer whose script cannot be saved. -/
theorem declared_responds (load : Yaml.Loader) (clock : Moment) :
    (∀ request, Request.Declared request →
      (∃ a, (Request.answer clock request).1 = .ok a ∧
        Request.respond clock request = .ok ⟨200, Request.entries a.body⟩) ∨
      ∃ r, (Request.answer clock request).1 = .error (.refused r) ∧
        Request.respond clock request = .ok ⟨422, Request.entries [("detail", Request.entries
          [("status", .text "ERROR"), ("error", .text r.label), ("message", .text r.message)])]⟩) ∧
    ∀ (w : Workspace) (arguments : List String) (config : String)
      (settings : CommandLine.Settings) (text : String) (v : Value),
      CommandLine.parse arguments = .ok (config, settings) → w.tree.read config = .ok text →
      load (String.ofList (Script.unifyLineEnds text.toList)) = .ok v →
      (∀ fields, v.opened = .mapping fields → Script.Declared fields) →
      (∃ out, (Script.perform w (CommandLine.run load clock arguments)).1 = .ok out ∧
          (out.exit = 0 ∨ out.exit = 1)) ∨
        ∃ fields into a f, v.opened = .mapping fields ∧
          Script.directoryOf fields settings.directory = .text into ∧
          (Script.answered clock fields).1 = .ok a ∧ Script.Unsaved into a f ∧
          CommandLine.messageOf? f = none ∧
          (Script.perform w (CommandLine.run load clock arguments)).1 = .error f := by
  refine ⟨fun request h => ?_, ?_⟩
  · unfold Request.respond
    rcases Request.answer_of_declared clock h with ⟨a, ha, -⟩ | ⟨r, hr⟩
    · rw [ha]
      exact .inl ⟨a, rfl, rfl⟩
    · rw [hr]
      exact .inr ⟨r, rfl, rfl⟩
  · intro w arguments config settings text v hparse hread hload hdeclared
    cases hrun : (Script.perform w (CommandLine.run load clock arguments)).1 with
    | ok out => exact .inl ⟨out, rfl, CommandLine.exit_le_one hparse hrun⟩
    | error f =>
      obtain ⟨hexecute, hmessage⟩ := CommandLine.run_eq_error hparse hrun
      rcases Script.execute_fails hread hload hdeclared settings.directory_isGivenText hexecute with
        ⟨r, rfl⟩ | ⟨fields, into, a, hopened, hinto, hanswer, hunsaved⟩
      · cases hmessage
      · exact .inr ⟨fields, into, a, f, hopened, hinto, hanswer, hunsaved, hmessage, rfl⟩

theorem declared_responds_column :
    let clock : Moment := ⟨⟨2024, 1, 1⟩, 0, 0, 0, 0, none⟩
    let request := Request.entries [("input_table", .text "t"),
      ("columns", .list [Request.entries [("name", .text "id"), ("type", .text "INTEGER")]]),
      ("options", Request.entries [("target_dir", .text "/d")])]
    let w : Workspace := ⟨.ofFiles [] [("t.yaml", "input_table: t\noutput_dir: out\n")], []⟩
    let arguments := ["--config", "t.yaml"]
    (∃ a, Request.respond clock request = .ok ⟨200, Request.entries a⟩) ∧
      ∃ out, (Script.perform w (CommandLine.run Yaml.load clock arguments)).1 = .ok out ∧
        (out.exit = 0 ∨ out.exit = 1) := by
  intro clock request w arguments
  have hrequest : Request.Declared request := by
    refine Request.declared_entries rfl rfl (by decide +kernel) (fun _ => ⟨"t", rfl⟩)
      (fun h => by cases h) ?_ (by decide) ?_
    · rw [List.forall_mem_singleton]
      exact fun _ => ⟨"id", rfl⟩
    · rw [List.forall_mem_singleton]
      exact ⟨by simp, fun _ => .inr ⟨_, rfl⟩⟩
  obtain ⟨config, hload⟩ : ∃ v, Yaml.load (String.ofList (Script.unifyLineEnds
      "input_table: t\noutput_dir: out\n".toList)) = .ok v := exists_of_isOk (by decide +kernel)
  have hdeclared : ∀ fields, config.opened = .mapping fields → Script.Declared fields := by
    intro fields hfields
    -- Documents have no decidable equality, but the texts in them have.
    have htexts : ((Script.perform w (Script.config Yaml.load "t.yaml")).1.toOption.bind
        fun fields => Options.texts? (fields.flatMap fun e => [e.1, e.2])) =
        some [Text.ofString "input_table", Text.ofString "t", Text.ofString "output_dir",
          Text.ofString "out"] := by
      decide +kernel
    rw [Script.perform_config (show w.tree.read "t.yaml" = .ok _ from rfl) hload, hfields] at htexts
    have hvalues := Options.texts?_eq_some_iff.1 htexts
    obtain rfl : fields = [("input_table", Value.text "t"), ("output_dir", .text "out")].map
        fun f => (.text f.1, f.2) := by
      rcases fields with _ | ⟨⟨k, v⟩, _ | ⟨⟨k', v'⟩, _ | ⟨e, rest⟩⟩⟩ <;> simp at hvalues
      simp [hvalues]
    refine ⟨fun request hrequest => ?_, fun v hv => ?_⟩
    · unfold Script.request at hrequest
      obtain rfl := Except.ok.inj hrequest
      exact Request.declared_entries rfl (show _ = Request.entries [] from rfl)
        (by decide +kernel) (fun _ => ⟨"t", rfl⟩) (fun h => by cases h) (by simp) (by decide)
        (by simp)
    · rw [Request.field?_map] at hv
      exact ⟨"out", (Option.some.inj hv).symm⟩
  obtain ⟨⟨_, settings⟩, hparse, rfl⟩ : ∃ p, CommandLine.parse arguments = .ok p ∧
      p.1 = "t.yaml" := by
    have hfile : (CommandLine.parse arguments).toOption.map (·.1) = some "t.yaml" := by
      decide +kernel
    cases hparse : CommandLine.parse arguments with
    | error stop => rw [hparse] at hfile; cases hfile
    | ok p => exact ⟨p, rfl, by rw [hparse] at hfile; exact Option.some.inj hfile⟩
  obtain ⟨hresponds, hends⟩ := declared_responds Yaml.load clock
  constructor
  · have hstatus : (Request.respond clock request).toOption.map (·.status) = some 200 := by
      decide +kernel
    rcases hresponds request hrequest with ⟨a, -, hok⟩ | ⟨r, -, hrefused⟩
    · exact ⟨_, hok⟩
    · rw [hrefused] at hstatus
      cases hstatus
  · have hreturns :
        (Script.perform w (CommandLine.run Yaml.load clock arguments)).1.isOk = true := by
      decide +kernel
    rcases hends w arguments _ _ _ _ hparse rfl hload hdeclared with
      hout | ⟨_, _, _, f, -, -, -, -, -, hf⟩
    · exact hout
    · rw [hf] at hreturns
      cases hreturns

/-- A name of a column that is a number ends in a failure that is no refusal, and so does a number
for the directory of the script. -/
theorem respond_name_not_text :
    let clock : Moment := ⟨⟨2024, 1, 1⟩, 0, 0, 0, 0, none⟩
    let request := Request.entries [("input_table", .text "t"),
      ("columns", .list [Request.entries [("name", .int 1), ("type", .text "INTEGER")]])]
    let w : Workspace := ⟨.ofFiles [] [("t.yaml", "input_table: t\noutput_dir: 5\n")], []⟩
    (∃ f, Request.respond clock request = .error f ∧
      f.message? = some "Column names must be strings, got int") ∧
    (Script.perform w (CommandLine.run Yaml.load clock ["--config", "t.yaml"])).1 =
      .error .wrongKind := by
  intro clock request w
  have hrespond : (match Request.respond clock request with
      | .ok _ => none
      | .error f => f.message?) = some (Text.ofString "Column names must be strings, got int") := by
    decide +kernel
  -- Failures have no decidable equality, but their kind can be tested.
  have hkind : ∀ run : Except Failure CommandLine.Output, (match run with
      | .error .wrongKind => true
      | _ => false) = true → run = .error .wrongKind := by
    intro run h
    split at h
    · rfl
    · cases h
  refine ⟨?_, hkind _ (by decide +kernel)⟩
  split at hrespond
  · cases hrespond
  · rename_i f hf
    exact ⟨f, hf, hrespond⟩

end HiveTable
