/-
# DialSelect.Proofs.Endings -- how a run ends

A run that is asked for a selection ends in one of four ways (`Ending`): it has no settings, its
execution fails, or it is left with some addresses or with none.  Each way has its own exit
code, and says what stands on the standard output (`Program.run_has_unique_ending`).

The exit code is decided by the selection, but what is printed by its text.  The two agree
since a text format leaves an empty text only for an empty selection: no address that is read is
printed as nothing (`Run.ne_empty_of_execute`, `Selection.render_text_eq_empty_iff`).  A JSON
object is never empty, so one is printed for an empty selection as well.
-/
import DialSelect.Proofs.FrontOptions
import DialSelect.Proofs.Selected
import DialSelect.Proofs.Verbosity

namespace DialSelect

set_option autoImplicit false

variable {σ : Type}

/-! ## Empty texts -/

namespace Selection

/-- Where no address is empty, the text is empty for an empty selection only. -/
theorem render_text_eq_empty_iff {selection : Selection}
    (written : ∀ text ∈ selection.selected, text ≠ "") :
    selection.render .text = "" ↔ selection.selected = [] := by
  constructor
  · intro empty
    have chars : selection.renderText = [] := by
      rw [← String.toList_ofList (l := selection.renderText)]
      exact congrArg String.toList empty
    have parts : ∀ part ∈ selection.selected.map String.toList, part ≠ [] := by
      intro part member
      obtain ⟨text, selected, rfl⟩ := List.mem_map.1 member
      exact fun nothing => written text selected (String.toList_eq_nil_iff.1 nothing)
    have short : (selection.selected.map String.toList).length ≤ selection.renderText.length :=
      Text.length_le_joinWith parts
    rw [chars, List.length_map] at short
    exact List.eq_nil_of_length_eq_zero (Nat.le_zero.1 short)
  · intro nothing
    rw [render, renderText, nothing]
    rfl

theorem render_json_ne_empty (selection : Selection) : selection.render .json ≠ "" := by
  intro empty
  have chars : (selection.render .json).toList = [] := congrArg String.toList empty
  rw [render, String.toList_ofList, renderJson] at chars
  cases chars

end Selection

/-- No address that a run selects is an empty text. -/
theorem Run.ne_empty_of_execute {settings : Settings} {input : Input} {unseeded : Permuter σ}
    {state : σ} {selection : Selection}
    (succeeded : (execute settings input unseeded state).outcome = .ok selection) :
    ∀ text ∈ selection.selected, text ≠ "" := by
  obtain ⟨texts, -, sources⟩ := sources_of_execute succeeded
  intro text member empty
  obtain ⟨candidate, -, record, accepted, rfl⟩ := sources text member
  exact Record.print_ne_nil accepted (congrArg String.toList empty)

/-! ## Endings -/

/-- The ways in which a run for a selection can end. -/
inductive Ending where
  /-- There are no settings. -/
  | unconfigured
  /-- The execution fails. -/
  | failed
  /-- Addresses are left to try. -/
  | selected
  /-- No address is left to try. -/
  | nothing
  deriving DecidableEq, Repr

namespace Ending

def exit : Ending → Nat
  | .unconfigured => 1
  | .failed => 2
  | .selected => 0
  | .nothing => 3

theorem exit_injective {first second : Ending} (same : first.exit = second.exit) :
    first = second := by
  cases first <;> cases second <;> first | rfl | cases same

/-- An outcome is that of a run with this ending: what came of configuration and execution, and
what is left behind then. -/
def Describes (ending : Ending) (configured : Except ConfigError Settings)
    (executed : Settings → Except RunError Selection) (outcome : Outcome) : Prop :=
  outcome.exit = ending.exit ∧
  match ending with
  | .unconfigured => (∃ error, configured = .error error) ∧ outcome.stdout = ""
  | .failed =>
      ∃ settings error, configured = .ok settings ∧ executed settings = .error error ∧
        outcome.stdout = ""
  | .selected =>
      ∃ settings selection, configured = .ok settings ∧ executed settings = .ok selection ∧
        selection.selected ≠ [] ∧ outcome.stdout = selection.render settings.format ++ "\n"
  | .nothing =>
      ∃ settings selection, configured = .ok settings ∧ executed settings = .ok selection ∧
        selection.selected = [] ∧
        outcome.stdout =
          match settings.format with
          | .text => ""
          | .json => selection.render .json ++ "\n"

/-- An outcome is that of one ending at most, since the exit codes differ. -/
theorem Describes.unique {first second : Ending} {configured : Except ConfigError Settings}
    {executed : Settings → Except RunError Selection} {outcome : Outcome}
    (one : first.Describes configured executed outcome)
    (other : second.Describes configured executed outcome) : first = second :=
  exit_injective (one.1.symm.trans other.1)

end Ending

namespace Program

section Report

variable (environment : Option String) {settings : Settings} {input : Input}
  {unseeded : Permuter σ} {state : σ}

theorem report_of_error {error : RunError}
    (failed : (execute settings input unseeded state).outcome = .error error) :
    let outcome := report environment settings input unseeded state
    outcome.exit = exitRuntime ∧ outcome.stdout = "" := by
  intro outcome
  simp only [outcome, report, runOutcome, failed, and_self]

/-- A run that succeeds prints its selection, if there is any text, and says whether it is
empty. -/
theorem report_of_ok {selection : Selection}
    (succeeded : (execute settings input unseeded state).outcome = .ok selection) :
    let outcome := report environment settings input unseeded state
    let rendered := selection.render settings.format
    outcome.exit = (if selection.isEmpty then exitNothing else exitSuccess) ∧
      outcome.stdout = if rendered = "" then "" else rendered ++ "\n" := by
  intro outcome rendered
  simp only [outcome, rendered, report, runOutcome, succeeded, and_self]

theorem exists_describes_report :
    ∃ ending : Ending, ending.Describes (.ok settings)
      (fun settings => (execute settings input unseeded state).outcome)
      (report environment settings input unseeded state) := by
  cases executed : (execute settings input unseeded state).outcome with
  | error error =>
      obtain ⟨code, silent⟩ := report_of_error environment executed
      exact ⟨.failed, code, settings, error, rfl, executed, silent⟩
  | ok selection =>
      have unwritten := Selection.render_text_eq_empty_iff (Run.ne_empty_of_execute executed)
      obtain ⟨code, printed⟩ := report_of_ok environment executed
      by_cases nothing : selection.selected = []
      · rw [Selection.isEmpty, nothing] at code
        refine ⟨.nothing, code, settings, selection, rfl, executed, nothing, printed.trans ?_⟩
        cases settings.format with
        | text => exact if_pos (unwritten.2 nothing)
        | json => exact if_neg selection.render_json_ne_empty
      · rw [Selection.isEmpty, List.isEmpty_eq_false_iff.2 nothing] at code
        refine ⟨.selected, code, settings, selection, rfl, executed, nothing, printed.trans ?_⟩
        cases settings.format with
        | text => exact if_neg fun empty => nothing (unwritten.1 empty)
        | json => exact if_neg selection.render_json_ne_empty

end Report

variable {φ : Type} [FileSystem φ]

/-- What a run for a selection leaves behind is described by one of the endings. -/
theorem exists_describes_run (wording : Wording) {call : Call φ} {line : CommandLine}
    (accepted : CommandLine.read call.args = .ok line) (noTemplate : line.template = none)
    (unseeded : Permuter σ) (state : σ) :
    ∃ ending : Ending, ending.Describes (configure (readText call.files) line)
      (fun settings => (execute settings call.input unseeded state).outcome)
      (run wording call unseeded state).1 := by
  rw [run_of_read wording unseeded state accepted noTemplate]
  cases configure (readText call.files) line with
  | error error => exact ⟨.unconfigured, rfl, ⟨error, rfl⟩, rfl⟩
  | ok settings => exact exists_describes_report call.environment

end Program

end DialSelect
