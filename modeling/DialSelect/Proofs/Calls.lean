/-
# DialSelect.Proofs.Calls -- a run on a call, without asking

A run asks its surroundings step by step.  On a call every answer is known beforehand, so the
run is told without questions: it reads the configuration file where the files of the call have
it (`Program.askFile_run`), and it makes its selection with the standard input of the call.  That
input is not asked for where the settings have addresses, but then nothing looks at it
(`Run.execute_eq_of_addrs`).

What a run leaves behind is decided by its arguments first (`Program.run_eq`): they are refused,
they ask for a template, or they ask for a selection.
-/
import DialSelect.Program
import DialSelect.Proofs.Runs

namespace DialSelect

set_option autoImplicit false

variable {σ : Type}

namespace Program

variable {φ : Type} [FileSystem φ]

section ConfigFile

variable {readFile : String → Except FileFault String} {line : CommandLine}

theorem configFile_of_none (unnamed : line.config = none) :
    configFile readFile line = .ok none := by
  rw [configFile, askFile, unnamed]
  rfl

theorem configFile_of_some {path : String} (named : line.config = some path) :
    configFile readFile line = (parseFile path (readFile path)).map some := by
  rw [configFile, askFile, named]
  rfl

end ConfigFile

section Answers

variable (call : Call φ) (state : σ)

/-- To ask for the configuration file is to look it up, and leaves the files as they are. -/
theorem askFile_run (line : CommandLine) :
    (askFile (fun path => return textOf (← (call.surroundings state).readFile path)) line).run
        call.files = pure (configFile (readText call.files) line, call.files) := by
  unfold askFile
  cases named : line.config with
  | none =>
      rw [configFile_of_none named]
      rfl
  | some path =>
      rw [configFile_of_some named]
      rfl

theorem writeFile_run (path : String) :
    ((call.surroundings state).writeFile path ConfigFile.template.toUTF8).run call.files =
      match writeTemplate call.files path with
      | .error fault => pure (.error fault, call.files)
      | .ok files => pure (.ok (), files) := by
  unfold Call.surroundings writeTemplate
  dsimp only
  rw [StateT.run_bind, StateT.run_get, pure_bind]
  cases FileSystem.write call.files path ConfigFile.template.toUTF8 <;> rfl

/-- A selection uses the standard input of the call, whether or not it asks for it. -/
theorem performSelection_run (unseeded : Permuter σ) (settings : Settings) :
    (performSelection (call.surroundings state) unseeded settings).run call.files =
      pure (report call.environment settings call.input unseeded state, call.files) := by
  unfold performSelection
  by_cases listed : settings.addrs = []
  · rw [listed]
    rfl
  · rw [if_neg (by simpa using listed)]
    have unread := Run.execute_eq_of_addrs listed call.input (.bytes .empty) unseeded state
    rw [report, unread]
    rfl

end Answers

/-- A run on a call, told without questions. -/
theorem run_eq (wording : Wording) (call : Call φ) (unseeded : Permuter σ) (state : σ) :
    run wording call unseeded state =
      match plan wording call.args with
      | .finish outcome => (outcome, call.files)
      | .template path =>
          match writeTemplate call.files path with
          | .error fault => (templateOutcome path (.error fault), call.files)
          | .ok files => (templateOutcome path (.ok ()), files)
      | .select line =>
          match configure (readText call.files) line with
          | .error error => (configOutcome wording error, call.files)
          | .ok settings =>
              (report call.environment settings call.input unseeded state, call.files) := by
  unfold run perform
  cases plan wording call.args with
  | finish outcome => rfl
  | template path =>
      dsimp only
      rw [StateT.run_bind, writeFile_run]
      cases writeTemplate call.files path <;> rfl
  | select line =>
      dsimp only
      rw [StateT.run_bind, askFile_run, pure_bind, configure]
      cases settle line (configFile (readText call.files) line) with
      | error error => rfl
      | ok settings => exact performSelection_run call state unseeded settings

section Run

variable (wording : Wording) {call : Call φ} (unseeded : Permuter σ) (state : σ)

theorem run_of_refused {fault : CommandLine.Fault}
    (refused : CommandLine.read call.args = .error (.fault fault)) :
    run wording call unseeded state = (⟨exitUsage, "", wording.usage fault⟩, call.files) := by
  simp only [run_eq, plan, refused]

variable {line : CommandLine} (accepted : CommandLine.read call.args = .ok line)

include accepted

theorem run_of_template {path : String} (requested : line.template = some path) :
    run wording call unseeded state =
      match writeTemplate call.files path with
      | .error fault => (templateOutcome path (.error fault), call.files)
      | .ok files => (templateOutcome path (.ok ()), files) := by
  simp only [run_eq, plan, accepted, requested]

theorem run_of_read (noTemplate : line.template = none) :
    run wording call unseeded state =
      match configure (readText call.files) line with
      | .error error => (configOutcome wording error, call.files)
      | .ok settings =>
          (report call.environment settings call.input unseeded state, call.files) := by
  simp only [run_eq, plan, accepted, noTemplate]

end Run

end Program

end DialSelect
