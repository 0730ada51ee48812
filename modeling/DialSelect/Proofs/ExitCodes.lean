/-
# DialSelect.Proofs.ExitCodes -- what an exit code tells

A run that ends with `1` was given valid arguments, and there is something wrong with what they
ask for: there are no settings (`Program.Unconfigured`), or the template cannot be written.  A
run that has settings and fails ends with `2`, and it fails exactly if its standard input or a
candidate cannot be read (`Run.Unreadable`).

But arguments that are refused end a run with `2` as well, before there is anything to
configure.  So `2` does not tell whether a run was configured, and only where the arguments are
accepted do the two codes tell faults of the configuration from those of the run
(`Program.exit_one_iff_exit_two_iff`).  This holds over any files, however they are read and
written.
-/
import DialSelect.Proofs.Candidates
import DialSelect.Proofs.Endings
import DialSelect.Proofs.Precedence

namespace DialSelect

set_option autoImplicit false

variable {σ : Type}

/-! ## Candidates that cannot be read -/

theorem Record.exists_error_of_readAll_iff {network : Network} {texts : List String} :
    (∃ error, readAll network texts = .error error) ↔
      ∃ text ∈ texts, ∃ error, read network text = .error error := by
  rw [← FirstFault.not_exists_ok_iff, exists_readAll_iff]
  simp only [Classical.not_forall, exists_prop, FirstFault.not_exists_ok_iff]

namespace Run

/-- The candidates of a run cannot be read: the standard input is wanted and is no text, or a
candidate is no address of the network. -/
inductive Unreadable (settings : Settings) (input : Input) : Prop where
  | input {fault : InputFault} (wanted : settings.addrs = [])
      (unread : inputText input = .error fault)
  | candidate {texts : List String} {text : String} {error : AddressError}
      (found : candidates settings input = .ok texts) (member : text ∈ texts)
      (refused : Record.read settings.network text = .error error)

/-- Candidates cannot be got exactly if the standard input is wanted and cannot be read. -/
theorem candidates_eq_error_iff {settings : Settings} {input : Input} {fault : InputFault} :
    candidates settings input = .error fault ↔
      settings.addrs = [] ∧ inputText input = .error fault := by
  by_cases wanted : settings.addrs = []
  · rw [candidates_of_input wanted, inputWords]
    cases inputText input <;> simp [Except.map, wanted]
  · rw [candidates_of_addrs wanted]
    simp [wanted]

theorem exists_error_iff_unreadable {settings : Settings} {input : Input}
    {unseeded : Permuter σ} (drawn : unseeded.Fair) (state : σ) :
    (∃ error, (execute settings input unseeded state).outcome = .error error) ↔
      Unreadable settings input := by
  constructor
  · rintro ⟨error, failed⟩
    cases found : candidates settings input with
    | error fault =>
        obtain ⟨wanted, unread⟩ := candidates_eq_error_iff.1 found
        exact .input wanted unread
    | ok texts =>
        obtain ⟨fault, unread, -⟩ := (outcome_eq_error_iff found drawn state).1 failed
        obtain ⟨text, member, error, refused⟩ :=
          Record.exists_error_of_readAll_iff.1 ⟨fault, unread⟩
        exact .candidate found member refused
  · intro unreadable
    cases unreadable with
    | input wanted unread =>
        have missing := candidates_eq_error_iff.2 ⟨wanted, unread⟩
        rw [(execute_of_unreadable missing unseeded state).1]
        exact ⟨_, rfl⟩
    | candidate found member refused =>
        obtain ⟨fault, unread⟩ :=
          Record.exists_error_of_readAll_iff.2 ⟨_, member, _, refused⟩
        exact ⟨_, (outcome_eq_error_iff found drawn state).2 ⟨fault, unread, rfl⟩⟩

end Run

namespace Program

/-! ## Settings that are missing -/

variable {φ : Type} [FileSystem φ]

/-- There are no settings for a command line: its configuration file cannot be read as a text,
or is none, or a value in effect cannot be read. -/
inductive Unconfigured (files : φ) (line : CommandLine) : Prop where
  | unreadable {path : String} {fault : FileFault} (named : line.config = some path)
      (unread : readText files path = .error fault)
  | malformed {path text : String} (named : line.config = some path)
      (found : readText files path = .ok text) (refused : ConfigFile.read? text = none)
  | invalid {file : Option ConfigFile} (given : configFile (readText files) line = .ok file)
      (refused : (Settings.inEffect line file).Invalid)

/-- A configuration file is missing exactly if the command line names one that cannot be read
or is none. -/
theorem exists_error_of_configFile_iff {files : φ} {line : CommandLine} :
    (∃ error, configFile (readText files) line = .error error) ↔
      ∃ path, line.config = some path ∧ ((∃ fault, readText files path = .error fault) ∨
        ∃ text, readText files path = .ok text ∧ ConfigFile.read? text = none) := by
  cases named : line.config with
  | none => simp [configFile_of_none named]
  | some path =>
      rw [configFile_of_some named]
      cases found : readText files path with
      | error fault => simp [parseFile, Except.map, found]
      | ok text => cases read : ConfigFile.read? text <;> simp [parseFile, Except.map, found, read]

theorem exists_error_iff_unconfigured {files : φ} {line : CommandLine} :
    (∃ error, configure (readText files) line = .error error) ↔ Unconfigured files line := by
  constructor
  · rintro ⟨error, failed⟩
    rcases FirstFault.bind_eq_error_iff.1 failed with missing | ⟨file, given, refused⟩
    · obtain ⟨path, named, ⟨fault, unread⟩ | ⟨text, found, refused⟩⟩ :=
        exists_error_of_configFile_iff.1 ⟨error, missing⟩
      · exact .unreadable named unread
      · exact .malformed named found refused
    · obtain ⟨fault, refused, -⟩ := FirstFault.mapError_eq_error_iff.1 refused
      exact .invalid given (Settings.exists_error_iff_invalid.1 ⟨fault, refused⟩)
  · have missing (path : String) (named : line.config = some path)
        (why : (∃ fault, readText files path = .error fault) ∨
          ∃ text, readText files path = .ok text ∧ ConfigFile.read? text = none) :
        ∃ error, configure (readText files) line = .error error := by
      obtain ⟨error, missing⟩ := exists_error_of_configFile_iff.2 ⟨path, named, why⟩
      exact ⟨error, FirstFault.bind_eq_error_iff.2 (.inl missing)⟩
    intro unconfigured
    cases unconfigured with
    | unreadable named unread => exact missing _ named (.inl ⟨_, unread⟩)
    | malformed named found refused => exact missing _ named (.inr ⟨_, found, refused⟩)
    | invalid given refused =>
        obtain ⟨fault, refused⟩ := Settings.exists_error_iff_invalid.2 refused
        exact ⟨_, FirstFault.bind_eq_error_iff.2
          (.inr ⟨_, given, FirstFault.mapError_eq_error_iff.2 ⟨fault, refused, rfl⟩⟩)⟩

end Program

/-! ## Exit codes -/

namespace Ending.Describes

variable {ending : Ending} {configured : Except ConfigError Settings}
  {executed : Settings → Except RunError Selection} {outcome : Outcome}

/-- Of a run for a selection, `1` tells that there were no settings. -/
theorem exit_eq_one_iff (described : ending.Describes configured executed outcome) :
    outcome.exit = 1 ↔ ∃ error, configured = .error error := by
  obtain ⟨code, met⟩ := described
  rw [code]
  cases ending with
  | unconfigured => exact ⟨fun _ => met.1, fun _ => rfl⟩
  | failed | selected | nothing =>
      obtain ⟨settings, _, rfl, -⟩ := met
      exact ⟨nofun, nofun⟩

/-- Of a run for a selection, `2` tells that it had settings and failed. -/
theorem exit_eq_two_iff (described : ending.Describes configured executed outcome) :
    outcome.exit = 2 ↔
      ∃ settings, configured = .ok settings ∧ ∃ error, executed settings = .error error := by
  obtain ⟨code, met⟩ := described
  rw [code]
  cases ending with
  | unconfigured =>
      obtain ⟨⟨error, rfl⟩, -⟩ := met
      exact ⟨nofun, nofun⟩
  | failed =>
      obtain ⟨settings, error, rfl, failed, -⟩ := met
      exact ⟨fun _ => ⟨settings, rfl, error, failed⟩, fun _ => rfl⟩
  | selected | nothing =>
      obtain ⟨settings, selection, rfl, succeeded, -⟩ := met
      refine ⟨nofun, ?_⟩
      rintro ⟨_, ⟨⟩, error, failed⟩
      cases succeeded.symm.trans failed

end Ending.Describes

namespace Program

variable {φ : Type} [FileSystem φ]

/-- A run for a template ends with `1` exactly if the template cannot be written, and with `2`
never. -/
theorem exit_of_template (wording : Wording) {call : Call φ} {line : CommandLine}
    (accepted : CommandLine.read call.args = .ok line) {path : String}
    (requested : line.template = some path) (unseeded : Permuter σ) (state : σ) :
    let code := (run wording call unseeded state).1.exit
    (code = 1 ↔ ∃ fault, writeTemplate call.files path = .error fault) ∧ code ≠ 2 := by
  rw [run_of_template wording unseeded state accepted requested]
  cases writeTemplate call.files path with
  | error fault => simp [templateOutcome, exitConfig]
  | ok files => simp [templateOutcome, exitSuccess]

/-- **What the exit codes `1` and `2` tell.**  A run ends with `1` exactly if its arguments are
accepted and what they ask for cannot be had: a template that cannot be written, or a selection
without settings.  It ends with `2` exactly if its arguments are refused, or if they ask for a
selection, there are settings, and its candidates cannot be read. -/
theorem exit_one_iff_exit_two_iff (wording : Wording) (call : Call φ) {unseeded : Permuter σ}
    (drawn : unseeded.Fair) (state : σ) :
    let code := (run wording call unseeded state).1.exit
    (code = 1 ↔ ∃ line, CommandLine.read call.args = .ok line ∧
      ((∃ path fault, line.template = some path ∧
          writeTemplate call.files path = .error fault) ∨
        (line.template = none ∧ Unconfigured call.files line))) ∧
    (code = 2 ↔ (∃ fault, CommandLine.read call.args = .error (.fault fault)) ∨
      ∃ line settings, CommandLine.read call.args = .ok line ∧ line.template = none ∧
        configure (readText call.files) line = .ok settings ∧
        Run.Unreadable settings call.input) := by
  intro code
  cases accepted : CommandLine.read call.args with
  | error other =>
      cases other with
      | help | version => simp [code, run_eq, plan, accepted, exitSuccess]
      | fault fault => simp [code, run_of_refused wording unseeded state accepted, exitUsage]
  | ok line =>
      cases requested : line.template with
      | some path =>
          obtain ⟨one, two⟩ := exit_of_template wording accepted requested unseeded state
          simp [code, one, two, requested]
      | none =>
          obtain ⟨ending, described⟩ :=
            exists_describes_run wording accepted requested unseeded state
          simp only [code, described.exit_eq_one_iff, described.exit_eq_two_iff,
            exists_error_iff_unconfigured, Run.exists_error_iff_unreadable drawn]
          simp [requested]

/-- A candidate that is no address ends a run with `2`, and so does a standard input that breaks
off; a configuration file that is not there ends one with `1`, and so does a limit of zero. -/
theorem exit_one_iff_exit_two_iff_faults :
    let call (args : List String) (input : Input) : World := ⟨args, input, ⟨[]⟩, none⟩
    ∃ wording : Wording,
      (run wording (call ["nowhere"] (.bytes .empty)) .still ()).1.exit = 2 ∧
      (run wording (call [] (.failing "broken off")) .still ()).1.exit = 2 ∧
      (run wording (call ["-c", "missing.toml"] (.bytes .empty)) .still ()).1.exit = 1 ∧
      (run wording (call ["-p", "max:0"] (.bytes .empty)) .still ()).1.exit = 1 := by
  intro call
  let wording : Wording := ⟨"", fun _ => "", ""⟩
  have tells (args : List String) (input : Input) :=
    exit_one_iff_exit_two_iff wording (call args input) Permuter.still_fair ()
  refine ⟨wording, ?_, ?_, ?_, ?_⟩
  · let settings : Settings := ⟨.tcp, [.pick .default], none, .text, ["nowhere"], false⟩
    have unreadable : Run.Unreadable settings (.bytes .empty) :=
      .candidate rfl (List.mem_singleton_self "nowhere") rfl
    exact (tells ["nowhere"] (.bytes .empty)).2.2 (.inr ⟨_, settings, rfl, rfl, rfl, unreadable⟩)
  · exact (tells [] (.failing "broken off")).2.2
      (.inr ⟨_, _, rfl, rfl, rfl, .input rfl rfl⟩)
  · exact (tells ["-c", "missing.toml"] (.bytes .empty)).1.2
      ⟨_, rfl, .inr ⟨rfl, .unreadable rfl rfl⟩⟩
  · let line : CommandLine := { CommandLine.empty with policies := ["max:0"] }
    have refused : (Settings.inEffect line none).Invalid :=
      .inr (.inl ⟨"max:0", List.mem_singleton_self _, _, rfl⟩)
    exact (tells ["-p", "max:0"] (.bytes .empty)).1.2
      ⟨line, rfl, .inr ⟨rfl, .invalid rfl refused⟩⟩

/-- A network of no known name is an argument that is refused.  The run ends with `2`, and so `2`
does not tell that its arguments were accepted, nor `1` all that was wrong with them. -/
theorem exit_of_unknownNetwork :
    let world : World := ⟨["--network", "sctp", "192.0.2.1:80"], .bytes .empty, ⟨[]⟩, none⟩
    let code := (run ⟨"", fun _ => "", ""⟩ world .still ()).1.exit
    CommandLine.read world.args = .error (.fault .invalidValue) ∧ code = 2 ∧
      ¬(code = 2 → ∃ line, CommandLine.read world.args = .ok line) ∧
      ¬((∃ fault, CommandLine.read world.args = .error (.fault fault)) → code = 1) := by
  intro world code
  have refused : CommandLine.read world.args = .error (.fault .invalidValue) := rfl
  have ended : code = 2 := by
    simp only [code, run_of_refused _ _ _ refused, exitUsage]
  refine ⟨refused, ended, ?_, ?_⟩
  · intro accepted
    obtain ⟨line, accepted⟩ := accepted ended
    cases refused.symm.trans accepted
  · intro one
    cases ended.symm.trans (one ⟨_, refused⟩)

end Program

end DialSelect
