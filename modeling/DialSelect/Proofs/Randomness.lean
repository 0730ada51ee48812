/-
# DialSelect.Proofs.Randomness -- randomness is used only where it is declared

Only a shuffle asks the permuter, and only if it has two records or more to order.  So a
chain is idle, as far as the permuter is concerned, if it has no shuffle at any level or is
given at most one record, for no stage makes more records of fewer.  An idle chain does the
same with every permuter, whatever that would answer, and leaves its state alone
(`Chain.applyFrom_of_idle`).

A run has nothing random but its permuter.  If none of its policies is declared to be random,
or if it has one candidate at most, its outcome is the same for every seed, without a seed
and for every permuter; the seed shows in one report, which says that it has no effect
(`Run.randomness_declared`).
-/
import DialSelect.Proofs.FairOrder
import DialSelect.Proofs.Runs
import DialSelect.Proofs.Sequence

namespace DialSelect

set_option autoImplicit false

variable {α σ τ : Type}

/-- An outcome with another state of the permuter. -/
def Applied.withState (applied : Applied α σ) (state : τ) : Applied α τ :=
  ⟨applied.value, state, applied.events⟩

/-- A chain that asks for no order: it has no shuffle, or nothing to order. -/
def Chain.Idle (chain : Chain) (value : Option (List α)) : Prop :=
  .shuffle ∉ chain.flatten ∨ presentCount value ≤ 1

variable (family : α → Option Family)

namespace Stage

variable {family} in
theorem few_of_apply {permuter : Permuter σ} {stage : Stage} {value : Option (List α)}
    {state : σ} {here : Applied α σ} (few : presentCount value ≤ 1)
    (applied : stage.apply family permuter value state = .ok here) :
    presentCount here.value ≤ 1 := by
  by_cases shuffles : stage.shuffles
  · rw [apply_of_few family permuter shuffles few] at applied
    obtain rfl := Except.ok.inj applied
    exact few
  · cases stage with
    | pick rule =>
        rw [apply_pick] at applied
        obtain rfl := Except.ok.inj applied
        cases value with
        | none => exact Nat.zero_le 1
        | some records =>
            simp only [Pick.apply, Option.bind_some]
            cases selected : rule.select family records with
            | none => exact Nat.zero_le 1
            | some picked => exact Nat.le_trans (Pick.length_select_le selected) few
    | shuffle | arrange order => exact absurd rfl shuffles

/-- A stage that asks for no order does the same with every permuter. -/
theorem apply_of_idle (permuter : Permuter σ) (other : Permuter τ) {stage : Stage}
    {value : Option (List α)} (idle : stage = .shuffle → presentCount value ≤ 1) (state : σ)
    (start : τ) :
    stage.apply family permuter value state =
      (stage.apply family other value start).map (Applied.withState · state) := by
  cases value with
  | none => rfl
  | some records =>
      cases stage with
      | pick rule => rfl
      | shuffle =>
          have few := idle rfl
          rw [apply_of_few family permuter rfl few, apply_of_few family other rfl few]
          rfl
      | arrange order =>
          simp only [apply]
          cases Collection.arrange records (order records.length) <;> rfl

end Stage

namespace Chain

/-- **An idle chain does the same with every permuter**, and leaves its state alone. -/
theorem applyFrom_of_idle (permuter : Permuter σ) (other : Permuter τ) {chain : Chain}
    (number : Nat) {value : Option (List α)} (idle : chain.Idle value) (state : σ) (start : τ) :
    chain.applyFrom family permuter number value state =
      (chain.applyFrom family other number value start).map (Applied.withState · state) := by
  induction chain generalizing number value start with
  | nil => rfl
  | stage first rest ih =>
      have here : first = .shuffle → presentCount value ≤ 1 := by
        rintro rfl
        exact idle.resolve_left fun plain => plain List.mem_cons_self
      rw [applyFrom, applyFrom, Stage.apply_of_idle family permuter other here state start]
      cases applied : first.apply family other value start with
      | error fault => rfl
      | ok middle =>
          have behind : rest.Idle middle.value :=
            idle.imp (fun plain => fun inside => plain (List.mem_cons_of_mem _ inside))
              fun few => Stage.few_of_apply few applied
          simp only [Except.map, bind, Except.bind, Applied.withState]
          rw [ih (number + 1) behind middle.state]
          cases rest.applyFrom family other (number + 1) middle.value middle.state <;> rfl
  | nest inner rest ihInner ihRest =>
      have within : inner.Idle value :=
        idle.imp_left fun plain => fun inside => plain (List.mem_append_left _ inside)
      rw [applyFrom, applyFrom, ihInner 0 within start]
      cases applied : inner.applyFrom family other 0 value start with
      | error fault => rfl
      | ok middle =>
          have behind : rest.Idle middle.value :=
            idle.imp (fun plain => fun inside => plain (List.mem_append_right _ inside))
              fun few => keeps_of_applyFrom (fun _ _ _ _ => Stage.few_of_apply) few applied
          simp only [Except.map, bind, Except.bind, Applied.withState]
          rw [ihRest (number + 1) behind middle.state]
          cases rest.applyFrom family other (number + 1) middle.value middle.state <;> rfl

end Chain

/-! ## Runs -/

theorem Stage.shuffle_not_mem {policies : List Policy} (plain : .shuffle ∉ policies) :
    .shuffle ∉ policies.map Stage.ofPolicy := by
  intro member
  obtain ⟨policy, inside, same⟩ := List.mem_map.1 member
  cases policy with
  | pick rule => cases same
  | shuffle => exact plain inside

theorem Settings.shuffle_not_mem_policy {settings : Settings}
    (plain : settings.isRandom = false) : .shuffle ∉ settings.policy := by
  intro member
  have random := List.any_eq_false.1 plain .shuffle member
  exact random rfl

/-- A rule reports collections without families, and nothing else. -/
theorem Pick.noAddressFamily_of_mem_reports {rule : Pick} {records : List α} {event : Event}
    (member : event ∈ rule.reports family records) :
    ∃ length, event = .noAddressFamily length := by
  cases rule with
  | default =>
      simp only [reports] at member
      split at member
      · exact ⟨records.length, List.mem_singleton.1 member⟩
      · cases member
  | all | first | firstEach | firstOf _ | only _ | atMost _ | reverse => cases member

theorem Chain.seedUnused_not_mem {permuter : Permuter σ} {chain : Chain} {number : Nat}
    {value : Option (List α)} {state : σ} {applied : Applied α σ}
    (ran : chain.applyFrom family permuter number value state = .ok applied) :
    .seedUnused ∉ applied.events := by
  have other : ∀ event ∈ applied.events, event ≠ .seedUnused := by
    refine events_invariant ?_ (fun _ _ => nofun) chain number value state ran
    rintro stage value state here applied event member rfl
    rcases Stage.events_of_apply applied with none | ⟨rule, records, reports⟩
    · rw [none] at member
      cases member
    · rw [reports] at member
      obtain ⟨length, same⟩ := Pick.noAddressFamily_of_mem_reports family member
      cases same
  exact fun member => other _ member rfl

namespace Run

/-- Policies that ask for no order leave the same records with every permuter. -/
theorem pickRecords_of_idle {network : Network} {policies : List Policy}
    {records : List network.Record} (idle : .shuffle ∉ policies ∨ records.length ≤ 1)
    (permuter : Permuter σ) (other : Permuter τ) (state : σ) (start : τ) :
    pickRecords network policies records permuter state =
      pickRecords network policies records other start := by
  have chainIdle : (Chain.ofPolicies policies).Idle (some records) := by
    refine idle.imp_left fun plain => ?_
    rw [Chain.flatten_ofPolicies]
    exact Stage.shuffle_not_mem plain
  rw [pickRecords, pickRecords, Chain.apply, Chain.apply,
    Chain.applyFrom_of_idle _ permuter other 0 chainIdle state start]
  cases Chain.applyFrom (Record.family? network) other 0 (Chain.ofPolicies policies)
    (some records) start <;> rfl

/-- A selection that asks for no order is the same with every permuter. -/
theorem select_of_idle (settings : Settings) {texts : List String}
    (idle : .shuffle ∉ settings.policy ∨ texts.length ≤ 1) (permuter : Permuter σ)
    (other : Permuter τ) (state : σ) (start : τ) :
    select settings texts permuter state = select settings texts other start := by
  cases read : Record.readAll settings.network texts with
  | error error => rw [select_of_unread settings read, select_of_unread settings read]
  | ok records =>
      have idleRecords : .shuffle ∉ settings.policy ∨ records.length ≤ 1 := by
        rw [FirstFault.length_eq_of_mapM read]
        exact idle
      simp only [select, read,
        pickRecords_of_idle idleRecords permuter other state start]

/-- Without a seed, nothing is said about seeds. -/
theorem seedUnused_not_mem {settings : Settings} (unseeded : settings.seed = none)
    (texts : List String) (permuter : Permuter σ) (state : σ) :
    .seedUnused ∉ (select settings texts permuter state).events := by
  have silent : seedReport settings = [] := by simp [seedReport, unseeded]
  cases read : Record.readAll settings.network texts with
  | error error => simp [select_of_unread settings read, failed, silent]
  | ok records =>
      cases ran : (Chain.ofPolicies settings.policy).apply (Record.family? settings.network)
          permuter (some records) state with
      | error fault => simp [select_of_fault settings read ran, failed, silent]
      | ok applied =>
          have chain := Chain.seedUnused_not_mem (Record.family? settings.network) ran
          have last (candidates selected : Nat) : .seedUnused ≠ summary candidates selected := by
            unfold summary
            split <;> simp
          simp [select_of_applied settings read ran, silent, chain, last]

/-- What a run that asks for no order comes to is the same for every seed and every permuter,
but for the report in front about the seed. -/
theorem execute_of_idle {settings : Settings} {input : Input} {texts : List String}
    (found : candidates settings input = .ok texts)
    (idle : .shuffle ∉ settings.policy ∨ texts.length ≤ 1) (seed : Option Nat)
    (permuter : Permuter σ) (state : σ) :
    let still := select { settings with seed := none } texts .still ()
    let run : Run := ⟨still.outcome, seedReport { settings with seed := seed } ++ still.events⟩
    execute { settings with seed := seed } input permuter state = run ∧
      executeBy { settings with seed := seed } input permuter state = run := by
  intro still run
  have source : candidates { settings with seed := seed } input = .ok texts := found
  have asking (τ : Type) (asked : Permuter τ) (start : τ) :
      executeBy { settings with seed := seed } input asked start = run := by
    have same := select_of_idle { settings with seed := none } idle asked .still start ()
    simp only [executeBy, source]
    rw [select_with_seed settings seed texts asked start, same]
  obtain ⟨τ, asked, start, same, -⟩ :=
    exists_executeBy { settings with seed := seed } input permuter state
  exact ⟨same.trans (asking τ asked start), asking σ permuter state⟩

/-- **Randomness is used only where it is declared.**  Where no policy is random, a run comes
to the same for every seed, without a seed, and whatever the permuter answers: the same
selection or error, and the same reports, but for one in front that a seed has no effect,
which is there exactly if there is a seed and the candidates could be got.  With at most one
candidate the selection or error is the same also where policies are random. -/
theorem randomness_declared (settings : Settings) (input : Input) :
    (settings.isRandom = false → ∃ outcome events, .seedUnused ∉ events ∧
      ∀ (seed : Option Nat) (σ : Type) (permuter : Permuter σ) (state : σ),
        let report := if seed.isSome && (candidates settings input).isOk then [.seedUnused] else []
        execute { settings with seed := seed } input permuter state =
          ⟨outcome, report ++ events⟩ ∧
        executeBy { settings with seed := seed } input permuter state =
          ⟨outcome, report ++ events⟩) ∧
    ∀ texts, candidates settings input = .ok texts → texts.length ≤ 1 → ∃ outcome,
      ∀ (seed : Option Nat) (σ : Type) (permuter : Permuter σ) (state : σ),
        (execute { settings with seed := seed } input permuter state).outcome = outcome ∧
        (executeBy { settings with seed := seed } input permuter state).outcome = outcome := by
  refine ⟨fun plain => ?_, fun texts found few => ?_⟩
  · cases found : candidates settings input with
    | error fault =>
        refine ⟨.error (.input fault), [], List.not_mem_nil, ?_⟩
        intro seed σ permuter state report
        have silent : report ++ [] = [] := by simp [report, Except.isOk, Except.toBool]
        have source : candidates { settings with seed := seed } input = .error fault := found
        rw [silent]
        exact execute_of_unreadable source permuter state
    | ok texts =>
        let still := select { settings with seed := none } texts .still ()
        have silent : .seedUnused ∉ still.events := seedUnused_not_mem rfl texts .still ()
        refine ⟨still.outcome, still.events, silent, ?_⟩
        intro seed σ permuter state report
        have idle := Settings.shuffle_not_mem_policy plain
        have reported : seedReport { settings with seed := seed } = report := by
          have plain : Settings.isRandom { settings with seed := seed } = false := plain
          simp [report, seedReport, plain, Except.isOk, Except.toBool]
        rw [← reported]
        exact execute_of_idle found (.inl idle) seed permuter state
  · let still := select { settings with seed := none } texts .still ()
    refine ⟨still.outcome, ?_⟩
    intro seed σ permuter state
    obtain ⟨ran, asked⟩ := execute_of_idle found (.inr few) seed permuter state
    rw [ran, asked]
    exact ⟨rfl, rfl⟩

end Run

/-- A permuter that answers with an index past the end. -/
def Permuter.outside : Permuter Unit where
  draw n state := ([n], state)

/-- Two sockets, and policies without randomness. -/
def Settings.listed : Settings :=
  ⟨.tcp, [.pick .reverse, .pick (.atMost 1)], some 7, .text,
    ["192.0.2.1:80", "[2001:db8::a]:443"], false⟩

/-- One socket, and a shuffle. -/
def Settings.lone : Settings :=
  ⟨.tcp, [.shuffle, .pick .all], some 7, .text, ["192.0.2.1:80"], false⟩

theorem Run.randomness_declared_listed :
    Settings.listed.isRandom = false ∧
    (∃ outcome events, .seedUnused ∉ events ∧
      execute Settings.listed (.failing "closed") .still () =
        ⟨outcome, .seedUnused :: events⟩ ∧
      execute { Settings.listed with seed := none } (.failing "closed") .outside () =
        ⟨outcome, events⟩) ∧
    Settings.lone.isRandom ∧
    candidates .lone (.failing "closed") = .ok ["192.0.2.1:80"] ∧
    ["192.0.2.1:80"].length ≤ 1 ∧
    (execute Settings.lone (.failing "closed") .still ()).outcome =
      (execute { Settings.lone with seed := none } (.failing "closed") .outside ()).outcome := by
  have plain : Settings.listed.isRandom = false := rfl
  have found : candidates .lone (.failing "closed") = .ok ["192.0.2.1:80"] := rfl
  have few : ["192.0.2.1:80"].length ≤ 1 := Nat.le_refl 1
  obtain ⟨outcome, events, silent, same⟩ :=
    (randomness_declared .listed (.failing "closed")).1 plain
  obtain ⟨lone, alike⟩ := (randomness_declared .lone (.failing "closed")).2 _ found few
  have seeded := (same (some 7) Unit .still ()).1
  have unseeded := (same none Unit .outside ()).1
  exact ⟨plain, ⟨outcome, events, silent, seeded, unseeded⟩, rfl, found, few,
    (alike (some 7) Unit .still ()).1.trans (alike none Unit .outside ()).1.symm⟩

end DialSelect
