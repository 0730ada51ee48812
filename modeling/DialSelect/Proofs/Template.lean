/-
# DialSelect.Proofs.Template -- the template changes nothing

A configuration file is idle, if every value that it gives is the one that counts anyway, the
default (`ConfigFile.Idle`).  Under no command line are other values in effect with such a file
than with none (`Settings.inEffect_of_idle`), so it leads to the same settings or the same error
(`Settings.merge_of_idle`).

The template is read line by line as a file that gives the default network and the default
policy, and that file is idle (`ConfigFile.read?_template`, `ConfigFile.idle_template`).  So a
run that finds the template where its configuration is looked for is the run without a
configuration, whatever else the files around it are (`Program.run_of_idle`); and there the
template is, once a run has written it to files that give back what is written.
-/
import DialSelect.Proofs.DocumentLines
import DialSelect.Proofs.Files
import DialSelect.Proofs.FrontOptions
import DialSelect.Proofs.Precedence
import DialSelect.Proofs.Verbosity

namespace DialSelect

set_option autoImplicit false

/-! ## Files that change nothing -/

/-- What a file gives is what counts without it. -/
structure ConfigFile.Idle (file : ConfigFile) : Prop where
  network : file.network.getD Settings.defaultNetwork.name = Settings.defaultNetwork.name
  policy : file.policy = [] ∨ file.policy = [Settings.defaultPolicy.name]
  seed : file.seed = none
  format : file.format.getD Settings.defaultFormat.name = Settings.defaultFormat.name

namespace Settings

variable {file : ConfigFile} (idle : file.Idle) (line : CommandLine)

include idle

theorem inEffect_of_idle : inEffect line (some file) = inEffect line none := by
  simp only [inEffect, textInEffect, InEffect.mk.injEq]
  refine ⟨?_, ?_, ?_, ?_⟩
  · cases line.network with
    | some network => rfl
    | none => exact idle.network
  · split
    · rfl
    · rcases idle.policy with unset | alike
      · rw [Option.map_some, unset]
        rfl
      · rw [Option.map_some, alike]
        rfl
  · rw [Option.bind_some, idle.seed]
    rfl
  · cases line.format with
    | some format => rfl
    | none => exact idle.format

/-- With an idle file the settings are those without a file, or there are none for the same
reason. -/
theorem merge_of_idle : merge line (some file) = merge line none :=
  merge_eq_of_inEffect (inEffect_of_idle idle line)

end Settings

/-! ## The template -/

namespace ConfigFile

open Toml

/-- What the lines of the template state: one network and one policy. -/
def templateStatements : List Statement := [
  .table ["select"],
  .assign ["network"] (.text "tcp"),
  .assign ["policy"] (.array [.text "default"]),
  .table ["output"]]

theorem say_templateLines : Say (templateLines.map String.toList) templateStatements := by
  have select : BareName "select".toList := ⟨by decide, rfl⟩
  have network : BareName "network".toList := ⟨by decide, rfl⟩
  have policy : BareName "policy".toList := ⟨by decide, rfl⟩
  have output : BareName "output".toList := ⟨by decide, rfl⟩
  have tcp : Quotable "tcp".toList := by simp [Quotable]
  have default : Quotable "default".toList := by simp [Quotable]
  have selectLine : States "[select]".toList (.table ["select"]) := states_header select
  have networkLine : States "network = \"tcp\"".toList (.assign ["network"] (.text "tcp")) :=
    states_assign network (fun _ => rfl) (fun rest => value?_quote _ tcp (by simp)) (by decide)
  have policyLine : States "policy = [\"default\"]".toList
      (.assign ["policy"] (.array [.text "default"])) :=
    states_assign policy (fun _ => rfl)
      (fun rest => value?_renderList 79 (List.forall_mem_singleton.2 default) _) (by decide)
  have outputLine : States "[output]".toList (.table ["output"]) := states_header output
  iterate 2 refine .silent (isSilent_ofList rfl) ?_
  refine .states selectLine ?_
  iterate 2 refine .silent (isSilent_ofList rfl) ?_
  refine .states networkLine ?_
  iterate 15 refine .silent (isSilent_ofList rfl) ?_
  refine .states policyLine ?_
  iterate 4 refine .silent (isSilent_ofList rfl) ?_
  refine .states outputLine ?_
  iterate 2 refine .silent (isSilent_ofList rfl) ?_
  exact .nil

theorem lineText_templateLines : lineText (templateLines.map String.toList) = templateText := by
  rw [lineText, List.flatMap_map]
  rfl

/-- The template is a configuration file that gives the default network and the default policy. -/
theorem read?_template : read? template = some ⟨some "tcp", ["default"], none, none⟩ := by
  have statements : statements? templateText = some templateStatements := by
    rw [← lineText_templateLines]
    exact statements?_of_say say_templateLines rfl
  have document : Toml.read? templateText = some [("select", .table [("network", .text "tcp"),
      ("policy", .array [.text "default"])]), ("output", .table [])] := by
    rw [Toml.read?, statements]
    rfl
  rw [read?, template, String.toList_ofList, document]
  rfl

theorem idle_template : Idle ⟨some "tcp", ["default"], none, none⟩ :=
  ⟨rfl, .inr rfl, rfl, rfl⟩

end ConfigFile

/-! ## Runs with the template -/

namespace Program

variable {φ : Type} [FileSystem φ]

theorem readText_eq_ok_of_read {files : φ} {path text : String}
    (found : FileSystem.read files path = .ok text.toUTF8) : readText files path = .ok text := by
  have decoded : String.fromUTF8? text.toUTF8 = some text := dif_pos text.isValidUTF8
  rw [readText, found, textOf, decoded]

theorem readText_of_writeTemplate (lawful : FileSystem.Lawful φ) {files written : φ}
    {path : String} (done : writeTemplate files path = .ok written) :
    readText written path = .ok ConfigFile.template :=
  readText_eq_ok_of_read (lawful.read_write files written path _ done)

section Idle

variable {path text : String} {file : ConfigFile}
  (meant : ConfigFile.read? text = some file) (idle : file.Idle)

include meant idle

/-- An idle configuration file configures as none. -/
theorem configure_of_idle {readFile : String → Except FileFault String} {line : CommandLine}
    (found : readFile path = .ok text) (unnamed : line.config = none) :
    configure readFile { line with config := some path } = configure readFile line := by
  have given : configFile readFile { line with config := some path } = .ok (some file) := by
    rw [configFile_of_some rfl, found, parseFile, meant]
    rfl
  rw [configure, configure, given, configFile_of_none unnamed]
  show (Settings.merge line (some file)).mapError _ = (Settings.merge line none).mapError _
  rw [Settings.merge_of_idle idle line]

/-- A run with an idle configuration file is the run without one. -/
theorem run_of_idle {σ : Type} (wording : Wording) {call : Call φ} {line : CommandLine}
    (accepted : CommandLine.read call.args = .ok line) (unnamed : line.config = none)
    (found : readText call.files path = .ok text) {args : List String}
    (again : CommandLine.read args = .ok { line with config := some path })
    (unseeded : Permuter σ) (state : σ) :
    run wording { call with args := args } unseeded state = run wording call unseeded state := by
  let other : Call φ := { call with args := args }
  have again : CommandLine.read other.args = .ok { line with config := some path } := again
  show run wording other unseeded state = run wording call unseeded state
  cases requested : line.template with
  | some target =>
      -- a run for a template looks at no configuration
      rw [run_of_template wording unseeded state again requested,
        run_of_template wording unseeded state accepted requested]
  | none =>
      rw [run_of_read wording unseeded state again requested,
        run_of_read wording unseeded state accepted requested,
        configure_of_idle meant idle found unnamed]

end Idle

/-- **The template is neutral.**  It is read as a configuration file, and under every command
line that file leads to the settings, or to the error, that no file leads to.

A run for a template that succeeds leaves it under the path that was asked for, in files that
give back what is written, as a tree of files does.  And where a path leads to the template, in
whatever files, every run without a configuration file is the same with that path for one,
however the command line names it; an option in front always does, for a path that is not
empty. -/
theorem template_neutral {σ φ : Type} [FileSystem φ] (wording : Wording) (unseeded : Permuter σ)
    (state : σ) :
    (∃ file, ConfigFile.read? ConfigFile.template = some file ∧
      ∀ line, Settings.merge line (some file) = Settings.merge line none) ∧
    (FileSystem.Lawful φ → ∀ (call : Call φ) (request : CommandLine) (path : String),
      CommandLine.read call.args = .ok request → request.template = some path →
      let ended := run wording call unseeded state
      ended.1.exit = exitSuccess → readText ended.2 path = .ok ConfigFile.template) ∧
    FileSystem.Lawful FileTree ∧
    ∀ (call : Call φ) (line : CommandLine) (path : String),
      CommandLine.read call.args = .ok line → line.config = none →
      readText call.files path = .ok ConfigFile.template →
      (path ≠ "" → CommandLine.read (("--config=" ++ path) :: call.args) =
          .ok { line with config := some path }) ∧
        ∀ args, CommandLine.read args = .ok { line with config := some path } →
          run wording { call with args := args } unseeded state =
            run wording call unseeded state := by
  refine ⟨⟨_, ConfigFile.read?_template, Settings.merge_of_idle ConfigFile.idle_template⟩, ?_,
    FileTree.lawful, ?_⟩
  · intro lawful call request path accepted requested ended succeeded
    have ran := run_of_template wording unseeded state accepted requested
    cases written : writeTemplate call.files path with
    | error fault =>
        simp [ended, ran, written, templateOutcome, exitSuccess, exitConfig] at succeeded
    | ok files =>
        have left : ended.2 = files := by
          simp [ended, ran, written]
        rw [left]
        exact readText_of_writeTemplate lawful written
  · intro call line path accepted unnamed found
    refine ⟨fun nonempty => CommandLine.read_config nonempty accepted unnamed, ?_⟩
    intro args again
    exact run_of_idle ConfigFile.read?_template ConfigFile.idle_template wording accepted unnamed
      found again unseeded state

/-- A template is written into an empty directory, and a run that reverses two addresses is the
same with it. -/
theorem template_neutral_reversed :
    ∃ (wording : Wording) (start : World) (request line : CommandLine) (args again : List String),
      CommandLine.read start.args = .ok request ∧ request.template = some "pick.toml" ∧
      let ended := run wording start .still ()
      ended.1.exit = 0 ∧ readText ended.2 "pick.toml" = .ok ConfigFile.template ∧
      CommandLine.read args = .ok line ∧ line.config = none ∧
      CommandLine.read again = .ok { line with config := some "pick.toml" } ∧
      CommandLine.read ("--config=pick.toml" :: args) =
        .ok { line with config := some "pick.toml" } ∧
      let world : World := ⟨args, .bytes .empty, ended.2, none⟩
      run wording { world with args := again } .still () = run wording world .still () ∧
      (run wording world .still ()).1.stdout = "192.0.2.2:80\n192.0.2.1:80\n" := by
  let wording : Wording := ⟨"", fun _ => "", ""⟩
  let start : World := ⟨["init", "-o", "pick.toml"], .bytes .empty, ⟨[]⟩, none⟩
  let request : CommandLine := { CommandLine.empty with template := some "pick.toml" }
  let args := ["-p", "reverse", "192.0.2.1:80", "192.0.2.2:80"]
  let again := ["-p", "reverse", "--config", "pick.toml", "192.0.2.1:80", "192.0.2.2:80"]
  let line : CommandLine :=
    { CommandLine.empty with policies := ["reverse"], addrs := ["192.0.2.1:80", "192.0.2.2:80"] }
  have requested : CommandLine.read start.args = .ok request := rfl
  have accepted : CommandLine.read args = .ok line := rfl
  have named : CommandLine.read again = .ok { line with config := some "pick.toml" } := rfl
  obtain ⟨-, kept, lawful, same⟩ := @template_neutral Unit FileTree _ wording .still ()
  have found := kept lawful start request "pick.toml" requested rfl rfl
  let world : World := ⟨args, .bytes .empty, (run wording start .still ()).2, none⟩
  obtain ⟨front, unchanged⟩ := same world line "pick.toml" accepted rfl found
  exact ⟨wording, start, request, line, args, again, requested, rfl, rfl, found, accepted, rfl,
    named, front (by decide), unchanged again named, rfl⟩

end Program

end DialSelect
