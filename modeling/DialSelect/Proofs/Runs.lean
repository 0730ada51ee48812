/-
# DialSelect.Proofs.Runs -- the three ways a selection ends

A selection ends at the first candidate that cannot be read, at an order with an
index past the end, or with what the chain of its policies leaves.  Each law gives
the whole run, its outcome and its reports.  So a selection that succeeds read all
candidates and ran the chain (`exists_of_select`), and a run that succeeds selected among
candidates that could be got (`exists_of_execute`).

Which permuter a run asks depends on its seed (`exists_executeBy`); all else that a run does
with its seed is to report one that nothing uses, in front of all other reports
(`select_with_seed`).

The bytes of a text are read from the standard input as that text, and no other bytes are
read (`inputText_toUTF8`, `inputText_of_no_text`).
-/
import DialSelect.Execute

namespace DialSelect.Run

set_option autoImplicit false

variable {σ : Type} (settings : Settings) {texts : List String} {permuter : Permuter σ} {state : σ}

theorem select_of_unread {error : AddressError}
    (unread : Record.readAll settings.network texts = .error error) :
    select settings texts permuter state = failed (seedReport settings) (.address error) := by
  simp only [select, unread]

variable {records : List settings.network.Record}

theorem select_of_fault {fault : IndexFault}
    (read : Record.readAll settings.network texts = .ok records)
    (faulty : (Chain.ofPolicies settings.policy).apply (Record.family? settings.network) permuter
      (some records) state = .error fault) :
    select settings texts permuter state =
      failed (seedReport settings ++ [.candidatesRead settings.network records.length])
        (.order fault) := by
  simp only [select, read, pickRecords, faulty]
  rfl

theorem select_of_applied {applied : Applied settings.network.Record σ}
    (read : Record.readAll settings.network texts = .ok records)
    (picked : (Chain.ofPolicies settings.policy).apply (Record.family? settings.network) permuter
      (some records) state = .ok applied) :
    let selected := (applied.value.getD []).map (Record.print settings.network)
    select settings texts permuter state =
      ⟨.ok ⟨settings.network, records.length, settings.policy, selected⟩,
        seedReport settings ++ [.candidatesRead settings.network records.length] ++
          applied.events ++ [summary records.length selected.length]⟩ := by
  simp only [select, read, pickRecords, picked]
  rfl

/-- A selection that succeeds read every candidate and applied the chain of its policies; it
tells what was asked and what the chain left. -/
theorem exists_of_select {selection : Selection}
    (succeeded : (select settings texts permuter state).outcome = .ok selection) :
    ∃ records applied, Record.readAll settings.network texts = .ok records ∧
      (Chain.ofPolicies settings.policy).apply (Record.family? settings.network) permuter
        (some records) state = .ok applied ∧
      selection = ⟨settings.network, records.length, settings.policy,
        (applied.value.getD []).map (Record.print settings.network)⟩ := by
  cases read : Record.readAll settings.network texts with
  | error error =>
      rw [select_of_unread settings read] at succeeded
      cases succeeded
  | ok records =>
      cases picked : (Chain.ofPolicies settings.policy).apply (Record.family? settings.network)
          permuter (some records) state with
      | error fault =>
          rw [select_of_fault settings read picked] at succeeded
          cases succeeded
      | ok applied =>
          rw [select_of_applied settings read picked] at succeeded
          exact ⟨records, applied, rfl, picked, (Except.ok.inj succeeded).symm⟩

/-- A selection tells what was asked: the network, how many candidates there were, and the
policies. -/
theorem asked_of_select {selection : Selection}
    (succeeded : (select settings texts permuter state).outcome = .ok selection) :
    selection.input = texts.length ∧ selection.policy = settings.policy ∧
      selection.network = settings.network := by
  obtain ⟨records, applied, read, -, rfl⟩ := exists_of_select settings succeeded
  exact ⟨FirstFault.length_eq_of_mapM read, rfl, rfl⟩

/-! ## Seeds -/

omit records texts

/-- A run that asks a given permuter, whatever its seed. -/
def executeBy (input : Input) (permuter : Permuter σ) (state : σ) : Run :=
  match candidates settings input with
  | .error fault => failed [] (.input fault)
  | .ok texts => select settings texts permuter state

/-- A run asks the permuter of its seed, or without a seed the one that it is given. -/
theorem execute_eq (input : Input) (unseeded : Permuter σ) (state : σ) :
    execute settings input unseeded state =
      match settings.seed with
      | some seed => executeBy settings input Permuter.seeded (.ofSeed seed)
      | none => executeBy settings input unseeded state := by
  unfold execute executeBy
  cases candidates settings input with
  | error fault => cases settings.seed <;> rfl
  | ok texts => rfl

/-- So a run asks some permuter, and a fair one if it was given a fair one. -/
theorem exists_executeBy (input : Input) (unseeded : Permuter σ) (state : σ) :
    ∃ (τ : Type) (permuter : Permuter τ) (start : τ),
      execute settings input unseeded state = executeBy settings input permuter start ∧
      (unseeded.Fair → permuter.Fair) := by
  rw [execute_eq]
  cases settings.seed with
  | some seed => exact ⟨_, Permuter.seeded, .ofSeed seed, rfl, fun _ => Permuter.seeded_fair⟩
  | none => exact ⟨σ, unseeded, state, rfl, id⟩

/-- Where the candidates cannot be got, nothing else matters. -/
theorem execute_of_unreadable {settings : Settings} {input : Input} {fault : InputFault}
    (unreadable : candidates settings input = .error fault) (permuter : Permuter σ) (state : σ) :
    execute settings input permuter state = failed [] (.input fault) ∧
      executeBy settings input permuter state = failed [] (.input fault) := by
  simp only [execute, executeBy, unreadable, and_self]

/-- Where they can be got, a run is a selection among them. -/
theorem exists_select {settings : Settings} {input : Input} {texts : List String}
    (found : candidates settings input = .ok texts) (unseeded : Permuter σ) (state : σ) :
    ∃ (τ : Type) (permuter : Permuter τ) (start : τ),
      execute settings input unseeded state = select settings texts permuter start ∧
      (unseeded.Fair → permuter.Fair) := by
  obtain ⟨τ, permuter, start, same, fair⟩ := exists_executeBy settings input unseeded state
  refine ⟨τ, permuter, start, same.trans ?_, fair⟩
  simp only [executeBy, found]

/-- A run that succeeds got its candidates and selected among them. -/
theorem exists_of_execute {settings : Settings} {input : Input} {unseeded : Permuter σ}
    {state : σ} {selection : Selection}
    (succeeded : (execute settings input unseeded state).outcome = .ok selection) :
    ∃ texts, candidates settings input = .ok texts ∧
      ∃ (τ : Type) (permuter : Permuter τ) (start : τ),
        (select settings texts permuter start).outcome = .ok selection := by
  cases found : candidates settings input with
  | error fault =>
      rw [(execute_of_unreadable found unseeded state).1] at succeeded
      cases succeeded
  | ok texts =>
      obtain ⟨τ, permuter, start, same, -⟩ := exists_select found unseeded state
      exact ⟨texts, rfl, τ, permuter, start, same ▸ succeeded⟩

theorem asked_of_execute {settings : Settings} {input : Input} {texts : List String}
    (found : candidates settings input = .ok texts) {unseeded : Permuter σ} {state : σ}
    {selection : Selection}
    (succeeded : (execute settings input unseeded state).outcome = .ok selection) :
    selection.input = texts.length ∧ selection.policy = settings.policy ∧
      selection.network = settings.network := by
  obtain ⟨others, got, τ, permuter, start, selected⟩ := exists_of_execute succeeded
  obtain rfl := Except.ok.inj (found.symm.trans got)
  exact asked_of_select settings selected

/-- The seed of a selection shows in the report in front, and nowhere else. -/
theorem select_with_seed (seed : Option Nat) (texts : List String) (permuter : Permuter σ)
    (state : σ) :
    let unseeded := select { settings with seed := none } texts permuter state
    select { settings with seed := seed } texts permuter state =
      ⟨unseeded.outcome, seedReport { settings with seed := seed } ++ unseeded.events⟩ := by
  intro unseeded
  have unreported : seedReport { settings with seed := none } = [] := rfl
  simp only [unseeded, select, unreported, List.nil_append]
  cases Record.readAll settings.network texts with
  | error error => simp only [failed, List.append_nil]
  | ok records =>
      dsimp only
      cases pickRecords settings.network settings.policy records permuter state with
      | error fault => rfl
      | ok left => simp only [List.append_assoc]

/-! ## The standard input -/

theorem candidates_of_addrs {settings : Settings} (listed : settings.addrs ≠ []) (input : Input) :
    candidates settings input = .ok settings.addrs := by
  rw [candidates, if_neg]
  simpa using listed

/-- A selection among addresses that are listed looks at no standard input. -/
theorem execute_eq_of_addrs {settings : Settings} (listed : settings.addrs ≠ [])
    (input other : Input) (unseeded : Permuter σ) (state : σ) :
    execute settings input unseeded state = execute settings other unseeded state := by
  rw [execute, execute, candidates_of_addrs listed, candidates_of_addrs listed]

theorem inputText_toUTF8 (text : String) : inputText (.bytes text.toUTF8) = .ok text := by
  have read : String.fromUTF8? text.toUTF8 = some text := dif_pos text.isValidUTF8
  rw [inputText, read]

theorem inputText_of_no_text {content : ByteArray}
    (noText : ∀ text : String, text.toUTF8 ≠ content) :
    inputText (.bytes content) = .error .notUtf8 := by
  have refused : String.fromUTF8? content = none := by
    unfold String.fromUTF8?
    split
    · rename_i valid
      exact absurd rfl (noText (.ofByteArray content valid))
    · rfl
  rw [inputText, refused]

end DialSelect.Run
