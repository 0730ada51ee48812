/-
# DialSelect.Proofs.Presence -- something is left

Only three rules can leave nothing of some records: the two that look for one family,
and a limit of zero (`Pick.mayEmpty`).  Where every record has a family, each other
rule leaves a record of those it received (`Pick.exists_of_select`), and so does a
chain of such rules, however long it is and however it reorders (`Chain.exists_of_apply`).
A limit of zero is refused wherever a policy is read (`Settings.atMost_zero_not_mem`).
So a run over a network with addresses, with policies that were accepted and that do
not look for one family, selects an address if it has a candidate
(`Run.selects_some`).

For the same reason the default choice has nothing to warn about where every record
has a family: no rule reports anything (`Pick.reports_eq_nil`).
-/
import DialSelect.Proofs.Precedence
import DialSelect.Proofs.Runs
import DialSelect.Proofs.Tally

namespace DialSelect

set_option autoImplicit false

variable {α σ : Type} {family : α → Option Family} {permuter : Permuter σ}

/-- The rules that may leave nothing of some records. -/
def Pick.mayEmpty : Pick → Bool
  | .firstOf _ | .only _ => true
  | .atMost max => max = 0
  | .default | .all | .first | .firstEach | .reverse => false

def Stage.mayEmpty : Stage → Bool
  | .pick rule => rule.mayEmpty
  | .shuffle | .arrange _ => false

namespace Pick

/-- A rule that always leaves something leaves a record of either family. -/
theorem leaves_pos {rule : Pick} (keeps : rule.mayEmpty = false) {n : Share}
    (stocked : 0 < n.v4 + n.v6) : ∃ left, rule.leaves n = some left ∧ 0 < left.v4 + left.v6 := by
  cases rule with
  | default | first =>
      refine ⟨_, rfl, ?_⟩
      split
      · decide
      · dsimp only
        omega
  | all | reverse => exact ⟨n, rfl, stocked⟩
  | firstEach => exact ⟨_, rfl, by dsimp only; omega⟩
  | firstOf kind | only kind => cases keeps
  | atMost max =>
      have positive : max ≠ 0 := by simpa [mayEmpty] using keeps
      by_cases short : n.v4 + n.v6 ≤ max
      · exact ⟨n, if_pos short, stocked⟩
      · refine ⟨Share.fair max n.v4 n.v6, ?_, ?_⟩
        · rw [leaves, if_neg short, if_neg positive]
        · rw [Share.fair_sum]
          exact Nat.pos_of_ne_zero positive

variable (total : ∀ record, (family record).isSome)
include total

/-- Where every record has a family, such a rule leaves a record. -/
theorem exists_of_select {rule : Pick} (keeps : rule.mayEmpty = false) {records : List α}
    (nonempty : records ≠ []) :
    ∃ picked, rule.select family records = some picked ∧ picked ≠ [] := by
  by_cases first : rule = .first
  · subst first
    obtain ⟨record, rest, rfl⟩ := List.exists_cons_of_ne_nil nonempty
    exact ⟨[record], rfl, List.cons_ne_nil record []⟩
  · have stocked : 0 < (Share.tally family records).v4 + (Share.tally family records).v6 := by
      rw [Share.sum_tally total]
      exact List.length_pos_iff.2 nonempty
    obtain ⟨left, numbers, positive⟩ := leaves_pos keeps stocked
    obtain ⟨picked, selected, rfl⟩ :=
      Option.map_eq_some_iff.1 ((tally_select total records first).trans numbers)
    rw [Share.sum_tally total] at positive
    exact ⟨picked, selected, List.length_pos_iff.1 positive⟩

theorem reports_eq_nil (rule : Pick) (records : List α) : rule.reports family records = [] := by
  cases rule with
  | default =>
      refine if_neg fun warned => ?_
      have nonempty : records ≠ [] :=
        List.ne_nil_of_length_pos (Nat.lt_of_lt_of_le (by decide) warned.1)
      have keeps : Pick.default.mayEmpty = false := rfl
      obtain ⟨picked, selected, -⟩ := exists_of_select total keeps nonempty
      rw [selected] at warned
      cases warned.2
  | all | first | firstEach | firstOf _ | only _ | atMost _ | reverse => rfl

end Pick

/-! ## Chains -/

section Chains

variable (total : ∀ record, (family record).isSome)
include total

theorem Stage.exists_of_apply (drawn : permuter.Fair) {stage : Stage} (fair : stage.Fair)
    (keeps : stage.mayEmpty = false) {records : List α} (nonempty : records ≠ []) (state : σ) :
    ∃ here picked, stage.apply family permuter (some records) state = .ok here ∧
      here.value = some picked ∧ picked ≠ [] := by
  by_cases reorder : stage.reorders
  · obtain ⟨here, picked, applied, left, same⟩ :=
      apply_reorder family drawn fair reorder records state
    refine ⟨here, picked, applied, left, ?_⟩
    rintro rfl
    exact nonempty same.nil_eq.symm
  · cases stage with
    | pick rule =>
        obtain ⟨picked, selected, remains⟩ := Pick.exists_of_select total keeps nonempty
        exact ⟨_, picked, apply_pick rule (some records) state, selected, remains⟩
    | shuffle | arrange order => exact absurd rfl reorder

/-- Where every record has a family, a fair chain of stages that always leave something
leaves a record. -/
theorem Chain.exists_of_apply (drawn : permuter.Fair) {chain : Chain} (fair : chain.Fair)
    (keeps : ∀ stage ∈ chain.flatten, stage.mayEmpty = false) {records : List α}
    (nonempty : records ≠ []) (state : σ) :
    ∃ applied picked, chain.apply family permuter (some records) state = .ok applied ∧
      applied.value = some picked ∧ picked ≠ [] := by
  let Inv (value : Option (List α)) : Prop := ∃ records, value = some records ∧ records ≠ []
  have step : ∀ stage ∈ chain.flatten, ∀ value state, Inv value →
      ∃ here, stage.apply family permuter value state = .ok here ∧ Inv here.value := by
    rintro stage member _ state ⟨records, rfl, nonempty⟩
    obtain ⟨here, picked, applied, left⟩ := Stage.exists_of_apply total drawn (fair stage member)
      (keeps stage member) nonempty state
    exact ⟨here, applied, picked, left⟩
  obtain ⟨applied, ended, picked, left⟩ := apply_invariant step state ⟨records, rfl, nonempty⟩
  exact ⟨applied, picked, ended, left⟩

theorem Stage.events_eq_nil {stage : Stage} {value : Option (List α)} {state : σ}
    {here : Applied α σ} (applied : stage.apply family permuter value state = .ok here) :
    here.events = [] := by
  rcases events_of_apply applied with none | ⟨rule, records, reports⟩
  · exact none
  · rw [reports, Pick.reports_eq_nil total]

/-- Where every record has a family, a chain reports that stages were applied and
nothing else. -/
theorem Chain.stageApplied_of_mem_events (chain : Chain) (number : Nat) (value : Option (List α))
    (state : σ) {applied : Applied α σ}
    (ran : chain.applyFrom family permuter number value state = .ok applied) :
    ∀ event ∈ applied.events, ∃ stage remaining, event = .stageApplied stage remaining := by
  refine events_invariant ?_ (fun stage remaining => ⟨stage, remaining, rfl⟩) chain number value
    state ran
  intro stage value state here applied
  rw [Stage.events_eq_nil total applied]
  exact nofun

end Chains

/-! ## Runs -/

namespace Run

/-- A run with policies that always leave something selects some of its candidates. -/
theorem selects_of_keeping {settings : Settings} (ip : settings.network.hasIp)
    (keeps : ∀ policy ∈ settings.policy, (Stage.ofPolicy policy).mayEmpty = false)
    {texts : List String} (nonempty : texts ≠ []) {records : List settings.network.Record}
    (read : Record.readAll settings.network texts = .ok records) (drawn : permuter.Fair)
    (state : σ) :
    ∃ selection, (select settings texts permuter state).outcome = .ok selection ∧
      selection.selected ≠ [] := by
  have stocked : records ≠ [] := by
    rintro rfl
    exact nonempty (List.length_eq_zero_iff.1 (FirstFault.length_eq_of_mapM read).symm)
  have always : ∀ stage ∈ (Chain.ofPolicies settings.policy).flatten, stage.mayEmpty = false := by
    intro stage member
    rw [Chain.flatten_ofPolicies] at member
    obtain ⟨policy, inside, rfl⟩ := List.mem_map.1 member
    exact keeps policy inside
  obtain ⟨applied, picked, ended, left, remains⟩ := Chain.exists_of_apply
    (Record.family?_isSome ip) drawn (Chain.fair_ofPolicies settings.policy) always stocked state
  rw [select_of_applied settings read ended, left]
  exact ⟨_, rfl, fun none => remains (List.map_eq_nil_iff.1 none)⟩

/-- **A candidate is never lost silently.**  Take settings that were accepted, over a
network with addresses, none of whose policies looks for one family.  If there are
candidates, and all of them can be read, the run selects at least one address.  And over
such a network no rule has anything to warn about, whatever it receives, so no chain
reports that it found no family. -/
theorem selects_some {line : CommandLine} {file : Option ConfigFile} {settings : Settings}
    (merged : Settings.merge line file = .ok settings) (ip : settings.network.hasIp)
    (bothFamilies : ∀ policy ∈ settings.policy, ∀ kind,
      policy ≠ .pick (.firstOf kind) ∧ policy ≠ .pick (.only kind))
    {input : Input} {texts : List String} (found : candidates settings input = .ok texts)
    (nonempty : texts ≠ []) {records : List settings.network.Record}
    (read : Record.readAll settings.network texts = .ok records) {unseeded : Permuter σ}
    (drawn : unseeded.Fair) (state : σ) :
    (∃ selection, (execute settings input unseeded state).outcome = .ok selection ∧
      selection.selected ≠ []) ∧
    ∀ other : Network, other.hasIp →
      (∀ (rule : Pick) (records : List other.Record),
        rule.reports (Record.family? other) records = []) ∧
      ∀ (τ : Type) (permuter : Permuter τ) (chain : Chain) (value : Option (List other.Record))
        (state : τ) (applied : Applied other.Record τ),
        chain.apply (Record.family? other) permuter value state = .ok applied →
          ∀ length, .noAddressFamily length ∉ applied.events := by
  refine ⟨?_, fun other ipOther => ⟨?_, ?_⟩⟩
  · have keeps : ∀ policy ∈ settings.policy, (Stage.ofPolicy policy).mayEmpty = false := by
      intro policy member
      cases policy with
      | shuffle => rfl
      | pick rule =>
          cases rule with
          | default | all | first | firstEach | reverse => rfl
          | firstOf kind => exact absurd rfl (bothFamilies _ member kind).1
          | only kind => exact absurd rfl (bothFamilies _ member kind).2
          | atMost max =>
              refine decide_eq_false ?_
              rintro rfl
              exact Settings.atMost_zero_not_mem merged member
    unfold execute
    rw [found]
    cases settings.seed with
    | some seed =>
        exact selects_of_keeping ip keeps nonempty read Permuter.seeded_fair (.ofSeed seed)
    | none => exact selects_of_keeping ip keeps nonempty read drawn state
  · exact Pick.reports_eq_nil (Record.family?_isSome ipOther)
  · intro τ permuter chain value state applied ran length member
    obtain ⟨stage, remaining, same⟩ := Chain.stageApplied_of_mem_events
      (Record.family?_isSome ipOther) chain 0 value state ran _ member
    cases same

end Run

/-- Names as people write them, the tightest limit that is accepted, and no seed. -/
def CommandLine.tight : CommandLine :=
  { CommandLine.empty with
    addrs := ["[2001:db8::a]:443", "192.0.2.1:80"]
    policies := ["Shuffle", " first_each", "MAX: 1"] }

def Settings.tight : Settings :=
  ⟨.tcp, [.shuffle, .pick .firstEach, .pick (.atMost 1)], none, .text, CommandLine.tight.addrs,
    false⟩

def Collection.tight : List Network.tcp.Record :=
  [Socket.v6 ⟨[0x2001, 0xDB8, 0, 0, 0, 0, 0, 0xA], rfl⟩ 443 0, Socket.v4 ⟨192, 0, 2, 1⟩ 80]

theorem Run.selects_some_tight :
    Settings.merge .tight none = .ok .tight ∧ Settings.tight.network.hasIp ∧
    (∀ policy ∈ Settings.tight.policy, ∀ kind,
      policy ≠ .pick (.firstOf kind) ∧ policy ≠ .pick (.only kind)) ∧
    candidates .tight (.failing "closed") = .ok CommandLine.tight.addrs ∧
    CommandLine.tight.addrs ≠ [] ∧
    Record.readAll .tcp CommandLine.tight.addrs = .ok Collection.tight ∧ Permuter.still.Fair ∧
    (∃ selection, (execute .tight (.failing "closed") .still ()).outcome = .ok selection ∧
      selection.selected ≠ []) ∧
    Network.ip.hasIp ∧ ∀ (rule : Pick) (records : List Network.ip.Record),
      rule.reports (Record.family? .ip) records = [] := by
  have merged : Settings.merge .tight none = .ok .tight := rfl
  have bothFamilies : ∀ policy ∈ Settings.tight.policy, ∀ kind,
      policy ≠ .pick (.firstOf kind) ∧ policy ≠ .pick (.only kind) := by
    intro policy member kind
    cases kind <;> revert policy <;> decide
  have found : candidates .tight (.failing "closed") = .ok CommandLine.tight.addrs := rfl
  have nonempty : CommandLine.tight.addrs ≠ [] := List.cons_ne_nil _ _
  have read : Record.readAll .tcp CommandLine.tight.addrs = .ok Collection.tight := rfl
  have selects := selects_some merged rfl bothFamilies found nonempty read Permuter.still_fair ()
  exact ⟨merged, rfl, bothFamilies, found, nonempty, read, Permuter.still_fair, selects.1, rfl,
    (selects.2 .ip rfl).1⟩

end DialSelect
