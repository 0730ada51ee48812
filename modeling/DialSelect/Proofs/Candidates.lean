/-
# DialSelect.Proofs.Candidates -- where candidates come from, and what reading them decides

Addresses on the command line are the candidates, and then the standard input is not looked
at.  Without them the candidates are the tokens of the standard input, if that is a text.

The candidates are read before anything else is done with them.  So whether a run fails, and
how, is told by them and the network alone: it fails with the error of the first that is no
address of the network, whatever the policies, the seed, the permuter and the candidates
behind that one are, and it has applied no stage then.  If every candidate is an address, the
run succeeds, and gives their number whatever is left of them (`Run.candidates_decide`).
-/
import DialSelect.Proofs.Positions
import DialSelect.Proofs.Runs
import DialSelect.Proofs.Tokens

namespace DialSelect

set_option autoImplicit false

variable {σ : Type}

namespace Record

/-- A text is the first that is refused, behind some that are not. -/
structure FirstRefused (network : Network) (before : List String) (text : String)
    (error : AddressError) : Prop where
  readable : ∀ earlier ∈ before, ∃ record, read network earlier = .ok record
  refused : read network text = .error error

/-- Texts cannot be read exactly where one of them is the first that is refused. -/
theorem readAll_eq_error_iff {network : Network} {texts : List String} {error : AddressError} :
    readAll network texts = .error error ↔
      ∃ before text after, texts = before ++ text :: after ∧
        FirstRefused network before text error := by
  rw [readAll, FirstFault.mapM_eq_error_iff]
  constructor
  · rintro ⟨before, text, after, same, readable, refused⟩
    exact ⟨before, text, after, same, readable, refused⟩
  · rintro ⟨before, text, after, same, readable, refused⟩
    exact ⟨before, text, after, same, readable, refused⟩

theorem exists_readAll_iff {network : Network} {texts : List String} :
    (∃ records, readAll network texts = .ok records) ↔
      ∀ text ∈ texts, ∃ record, read network text = .ok record := by
  simp only [readAll, FirstFault.mapM_eq_ok_iff]
  exact FirstFault.exists_map_eq_ok_iff

/-- What stands behind the first text that is refused is not looked at. -/
theorem FirstRefused.readAll {network : Network} {before : List String} {text : String}
    {error : AddressError} (first : FirstRefused network before text error)
    (after : List String) :
    Record.readAll network (before ++ text :: after) = .error error :=
  readAll_eq_error_iff.2 ⟨before, text, after, rfl, first⟩

end Record

namespace Run

/-! ## Where candidates come from -/

theorem candidates_of_input {settings : Settings} (unlisted : settings.addrs = [])
    (input : Input) : candidates settings input = inputWords input := by
  rw [candidates, unlisted]
  rfl

/-- The candidates on a standard input that is a text are its tokens. -/
theorem candidates_eq_ok_iff {settings : Settings} (unlisted : settings.addrs = [])
    {text : String} {texts : List String} :
    candidates settings (.bytes text.toUTF8) = .ok texts ↔
      Text.Tokens text.toList (texts.map String.toList) := by
  rw [candidates_of_input unlisted, inputWords, inputText_toUTF8, Except.map, Except.ok.injEq,
    Text.map_ofList_eq_iff, Text.words_eq_iff]

/-! ## What reading them decides -/

/-- Nothing that is reported about a seed says that a stage was applied. -/
theorem stageApplied_not_mem_seedReport (settings : Settings) (stage remaining : Nat) :
    .stageApplied stage remaining ∉ seedReport settings := by
  unfold seedReport
  split
  · simp
  · exact List.not_mem_nil

section Found

variable {settings : Settings} {input : Input} {texts : List String}
  (found : candidates settings input = .ok texts) {unseeded : Permuter σ}

include found

/-- A candidate that is refused ends the run before anything else happens. -/
theorem execute_of_unread {fault : AddressError}
    (unread : Record.readAll settings.network texts = .error fault) (state : σ) :
    execute settings input unseeded state = failed (seedReport settings) (.address fault) := by
  obtain ⟨τ, permuter, start, same, -⟩ := exists_select found unseeded state
  rw [same]
  exact select_of_unread settings unread

theorem execute_of_read {records : List settings.network.Record}
    (read : Record.readAll settings.network texts = .ok records) (drawn : unseeded.Fair)
    (state : σ) :
    ∃ selection, (execute settings input unseeded state).outcome = .ok selection := by
  obtain ⟨τ, permuter, start, same, fair⟩ := exists_select found unseeded state
  obtain ⟨applied, ran, -⟩ := Chain.apply_subperm (Record.family? settings.network) (fair drawn)
    (Chain.fair_ofPolicies settings.policy) records start
  rw [same, select_of_applied settings read ran]
  exact ⟨_, rfl⟩

theorem outcome_eq_ok_iff (drawn : unseeded.Fair) (state : σ) :
    (∃ selection, (execute settings input unseeded state).outcome = .ok selection) ↔
      ∃ records, Record.readAll settings.network texts = .ok records := by
  cases read : Record.readAll settings.network texts with
  | error fault =>
      rw [execute_of_unread found read state]
      exact ⟨nofun, nofun⟩
  | ok records =>
      have done := execute_of_read found read drawn state
      exact ⟨fun _ => ⟨records, rfl⟩, fun _ => done⟩

/-- A run fails exactly where its candidates are not read, and with that error. -/
theorem outcome_eq_error_iff (drawn : unseeded.Fair) (state : σ) {error : RunError} :
    (execute settings input unseeded state).outcome = .error error ↔
      ∃ fault, Record.readAll settings.network texts = .error fault ∧ error = .address fault := by
  cases read : Record.readAll settings.network texts with
  | error fault =>
      rw [execute_of_unread found read state, failed]
      constructor
      · rintro ⟨⟩
        exact ⟨fault, rfl, rfl⟩
      · rintro ⟨_, ⟨⟩, rfl⟩
        rfl
  | ok records =>
      obtain ⟨selection, done⟩ := execute_of_read found read drawn state
      rw [done]
      constructor
      · rintro ⟨⟩
      · rintro ⟨_, ⟨⟩, _⟩

end Found

/-- **The candidates decide whether a run succeeds.**  With addresses in the settings, the
standard input makes no difference at all.  Without them, an input that fails or is no text is
the error of the run, and the candidates on a text are its tokens.

Whatever the candidates are, the run succeeds exactly if each is an address of the network, and
then gives their number, the policies and the network; else its error is that of the first that
is none.  Every run that has this one behind the same candidates ends with the same error,
whatever its policies, its seed, its permuter and the candidates behind, and reports nothing
but an unused seed: no stage was applied. -/
theorem candidates_decide (settings : Settings) {unseeded : Permuter σ} (drawn : unseeded.Fair)
    (state : σ) :
    let run (input : Input) : Run := execute settings input unseeded state
    (settings.addrs ≠ [] → ∀ input other,
      candidates settings input = .ok settings.addrs ∧ run input = run other) ∧
    (settings.addrs = [] →
      (∀ reason, run (.failing reason) = failed [] (.input (.failed reason))) ∧
      (∀ content, (∀ text : String, text.toUTF8 ≠ content) →
        run (.bytes content) = failed [] (.input .notUtf8)) ∧
      ∀ (text : String) (texts : List String),
        candidates settings (.bytes text.toUTF8) = .ok texts ↔
          Text.Tokens text.toList (texts.map String.toList)) ∧
    (∀ input texts, candidates settings input = .ok texts →
      ((∃ selection, (run input).outcome = .ok selection) ↔
        ∀ text ∈ texts, ∃ record, Record.read settings.network text = .ok record) ∧
      (∀ selection, (run input).outcome = .ok selection →
        selection.input = texts.length ∧ selection.policy = settings.policy ∧
          selection.network = settings.network) ∧
      ∀ error, (run input).outcome = .error error ↔
        ∃ fault, (∃ before text after, texts = before ++ text :: after ∧
          Record.FirstRefused settings.network before text fault) ∧ error = .address fault) ∧
    ∀ before text fault, Record.FirstRefused settings.network before text fault →
      ∀ (other : Settings) (input : Input) (after : List String) (τ : Type)
        (permuter : Permuter τ) (start : τ), other.network = settings.network →
        candidates other input = .ok (before ++ text :: after) →
        let stopped := execute other input permuter start
        stopped = failed (seedReport other) (.address fault) ∧
          ∀ stage remaining, .stageApplied stage remaining ∉ stopped.events := by
  intro run
  refine ⟨fun listed input other => ?_, fun unlisted => ⟨?_, ?_, ?_⟩, ?_, ?_⟩
  · exact ⟨candidates_of_addrs listed input, execute_eq_of_addrs listed input other unseeded state⟩
  · intro reason
    have unreadable : candidates settings (.failing reason) = .error (.failed reason) :=
      candidates_of_input unlisted _
    exact (execute_of_unreadable unreadable unseeded state).1
  · intro content noText
    have unreadable : candidates settings (.bytes content) = .error .notUtf8 := by
      rw [candidates_of_input unlisted, inputWords, inputText_of_no_text noText]
      rfl
    exact (execute_of_unreadable unreadable unseeded state).1
  · exact fun text texts => candidates_eq_ok_iff unlisted
  · intro input texts found
    refine ⟨?_, fun selection => asked_of_execute found, fun error => ?_⟩
    · rw [← Record.exists_readAll_iff]
      exact outcome_eq_ok_iff found drawn state
    · simp only [← Record.readAll_eq_error_iff]
      exact outcome_eq_error_iff found drawn state
  · intro before text fault first other input after τ permuter start alike found stopped
    have unread : Record.readAll other.network (before ++ text :: after) = .error fault := by
      rw [alike]
      exact first.readAll after
    have ended : stopped = failed (seedReport other) (.address fault) :=
      execute_of_unread found unread start
    refine ⟨ended, fun stage remaining => ?_⟩
    rw [ended]
    exact stageApplied_not_mem_seedReport other stage remaining

end Run

/-- Settings of a run over its standard input. -/
def Settings.unlisted : Settings := ⟨.tcp, [.shuffle, .pick .first], none, .text, [], false⟩

def Settings.oneListed : Settings := { Settings.unlisted with addrs := ["192.0.2.1:80"] }

def Settings.mirrored : Settings :=
  { Settings.unlisted with policy := [.pick .reverse], seed := some 7 }

/-- A socket, an address without a port, and a word. -/
def Input.spoiled : String := " 192.0.2.1:80\n192.0.2.7 nowhere\n"

def Input.spoiledWords : List String := ["192.0.2.1:80", "192.0.2.7", "nowhere"]

/-- A byte that occurs in no text. -/
def Input.strayByte : ByteArray := ⟨#[0xFF]⟩

namespace Run

theorem toUTF8_ne_strayByte (text : String) : text.toUTF8 ≠ Input.strayByte := by
  intro same
  have read : inputText (.bytes Input.strayByte) = .ok text := same ▸ inputText_toUTF8 text
  have refused : inputText (.bytes Input.strayByte) = .error .notUtf8 := by rfl
  cases refused.symm.trans read

theorem candidates_decide_spoiled :
    let content := Input.bytes Input.spoiled.toUTF8
    let fault := AddressError.invalid .tcp "192.0.2.7" .notASocket
    Permuter.still.Fair ∧ Settings.unlisted.addrs = [] ∧ Settings.oneListed.addrs ≠ [] ∧
    (∀ text : String, text.toUTF8 ≠ Input.strayByte) ∧
    execute .unlisted (.bytes Input.strayByte) .still () = failed [] (.input .notUtf8) ∧
    candidates .unlisted content = .ok Input.spoiledWords ∧
    Text.Tokens Input.spoiled.toList (Input.spoiledWords.map String.toList) ∧
    Record.FirstRefused .tcp ["192.0.2.1:80"] "192.0.2.7" fault ∧
    (execute .unlisted content .still ()).outcome = .error (.address fault) ∧
    execute .mirrored content .still () = failed [.seedUnused] (.address fault) ∧
    execute .oneListed content .still () = execute .oneListed (.failing "closed") .still () ∧
    ∃ selection, (execute .oneListed content .still ()).outcome = .ok selection ∧
      selection.input = 1 := by
  intro content fault
  have socket : ∃ record, Record.read .tcp "192.0.2.1:80" = .ok record :=
    ⟨Socket.v4 ⟨192, 0, 2, 1⟩ 80, rfl⟩
  have first : Record.FirstRefused .tcp ["192.0.2.1:80"] "192.0.2.7" fault :=
    ⟨List.forall_mem_singleton.2 socket, rfl⟩
  have nonempty : Settings.oneListed.addrs ≠ [] := List.cons_ne_nil _ _
  have found : candidates .unlisted content = .ok Input.spoiledWords := by
    rw [candidates_of_input rfl, inputWords, inputText_toUTF8]
    rfl
  obtain ⟨-, read, decided, stopped⟩ := candidates_decide .unlisted Permuter.still_fair ()
  obtain ⟨taken, -, counted, -⟩ := candidates_decide .oneListed Permuter.still_fair ()
  obtain ⟨-, refused, tokens⟩ := read rfl
  have fails := (decided content _ found).2.2 (.address fault)
  have mirrored := stopped _ _ _ first .mirrored content ["nowhere"] Unit .still () rfl found
  obtain ⟨source, same⟩ := taken nonempty content (.failing "closed")
  obtain ⟨succeeds, gives, -⟩ := counted content _ source
  obtain ⟨selection, done⟩ := succeeds.2 (List.forall_mem_singleton.2 socket)
  exact ⟨Permuter.still_fair, rfl, nonempty, toUTF8_ne_strayByte,
    refused _ toUTF8_ne_strayByte, found, (tokens _ _).1 found, first,
    fails.2 ⟨fault, ⟨_, _, ["nowhere"], rfl, first⟩, rfl⟩, mirrored.1, same, selection, done,
    (gives selection done).1⟩

end Run

end DialSelect
