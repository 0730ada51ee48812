/-
# DialSelect.Proofs.Flattening -- a chain is its stages in sequence

A chain is a tree of stages; what it does to a collection and to the permuter's
state is what the stages of all levels do one after the other
(`Chain.result_applyFrom`).  So a fact about every run of a chain is an induction
over a list of stages, made once: what each stage keeps, the chain keeps
(`Chain.apply_invariant`).  What one stage can do is told once, too
(`Stage.cases_of_apply`).
-/
import DialSelect.Chain

namespace DialSelect

set_option autoImplicit false

variable {α σ : Type}

/-- What an outcome hands to the next stage. -/
def Applied.result (applied : Applied α σ) : Option (List α) × σ :=
  (applied.value, applied.state)

/-- A rule on a collection that may be absent. -/
def Pick.apply (family : α → Option Family) (rule : Pick) (value : Option (List α)) :
    Option (List α) :=
  value.bind (rule.select family)

namespace Stage

def applyAll (family : α → Option Family) (permuter : Permuter σ) :
    List Stage → Option (List α) → σ → Except IndexFault (Option (List α) × σ)
  | [], value, state => .ok (value, state)
  | stage :: rest, value, state => do
      let here ← stage.apply family permuter value state
      applyAll family permuter rest here.value here.state

variable {family : α → Option Family} {permuter : Permuter σ}

theorem apply_pick (rule : Pick) (value : Option (List α)) (state : σ) :
    (Stage.pick rule).apply family permuter value state =
      .ok ⟨rule.apply family value, state, (value.map (rule.reports family)).getD []⟩ := by
  cases value <;> rfl

/-- What a stage can do with a collection: apply a rule to it and report what the rule reports,
or arrange it by some order without a report.  A shuffle that draws nothing leaves the
collection as any order would. -/
theorem cases_of_apply {stage : Stage} {records : List α} {state : σ} {here : Applied α σ}
    (applied : stage.apply family permuter (some records) state = .ok here) :
    (∃ rule, stage = .pick rule ∧ here.value = rule.select family records ∧
      here.events = rule.reports family records) ∨
    ∃ order, Collection.arrange records order = .ok here.value ∧ here.events = [] := by
  cases stage with
  | pick rule =>
      obtain rfl := Except.ok.inj applied
      exact .inl ⟨rule, rfl, rfl, rfl⟩
  | shuffle =>
      simp only [apply] at applied
      split at applied
      · rename_i short
        obtain rfl := Except.ok.inj applied
        exact .inr ⟨[], if_pos short, rfl⟩
      · obtain ⟨picked, arranged, built⟩ := FirstFault.bind_eq_ok_iff.1 applied
        obtain rfl := Except.ok.inj built
        exact .inr ⟨_, arranged, rfl⟩
  | arrange order =>
      obtain ⟨picked, arranged, built⟩ := FirstFault.bind_eq_ok_iff.1 applied
      obtain rfl := Except.ok.inj built
      exact .inr ⟨_, arranged, rfl⟩

/-- Only a rule reports anything of its own. -/
theorem events_of_apply {stage : Stage} {value : Option (List α)} {state : σ}
    {here : Applied α σ} (applied : stage.apply family permuter value state = .ok here) :
    here.events = [] ∨
      ∃ (rule : Pick) (records : List α), here.events = rule.reports family records := by
  cases value with
  | none =>
      obtain rfl := Except.ok.inj applied
      exact .inl rfl
  | some records =>
      rcases cases_of_apply applied with ⟨rule, -, -, reported⟩ | ⟨-, -, silent⟩
      · exact .inr ⟨rule, records, reported⟩
      · exact .inl silent

theorem applyAll_append (first next : List Stage) (value : Option (List α)) (state : σ) :
    applyAll family permuter (first ++ next) value state =
      (applyAll family permuter first value state).bind fun middle =>
        applyAll family permuter next middle.1 middle.2 := by
  induction first generalizing value state with
  | nil => rfl
  | cons stage rest ih =>
      rw [List.cons_append, applyAll, applyAll]
      cases stage.apply family permuter value state with
      | error fault => rfl
      | ok here => exact ih here.value here.state

/-- What every stage of a list keeps without a fault, the list keeps. -/
theorem applyAll_invariant {Inv : Option (List α) → Prop} {stages : List Stage}
    (step : ∀ stage ∈ stages, ∀ value state, Inv value →
      ∃ here, stage.apply family permuter value state = .ok here ∧ Inv here.value)
    {value : Option (List α)} (state : σ) (start : Inv value) :
    ∃ final, applyAll family permuter stages value state = .ok final ∧ Inv final.1 := by
  induction stages generalizing value state with
  | nil => exact ⟨(value, state), rfl, start⟩
  | cons stage rest ih =>
      obtain ⟨here, applied, kept⟩ := step stage List.mem_cons_self value state start
      obtain ⟨final, finished, holds⟩ :=
        ih (fun later member => step later (List.mem_cons_of_mem stage member)) here.state kept
      refine ⟨final, ?_, holds⟩
      rw [applyAll, applied]
      exact finished

/-- What every stage keeps, if it ends, stages that end keep. -/
theorem keeps_of_applyAll {Inv : Option (List α) → Prop}
    (step : ∀ (stage : Stage) (value : Option (List α)) (state : σ) (here : Applied α σ),
      Inv value → stage.apply family permuter value state = .ok here → Inv here.value)
    {stages : List Stage} {value : Option (List α)} {state : σ} {final : Option (List α) × σ}
    (start : Inv value) (ran : applyAll family permuter stages value state = .ok final) :
    Inv final.1 := by
  induction stages generalizing value state with
  | nil =>
      obtain rfl := Except.ok.inj ran
      exact start
  | cons stage rest ih =>
      obtain ⟨here, applied, ran⟩ := FirstFault.bind_eq_ok_iff.1 ran
      exact ih (step stage value state here start applied) ran

end Stage

namespace Chain

variable {family : α → Option Family} {permuter : Permuter σ}

/-- **A chain is the sequence of its stages at every level.** -/
theorem result_applyFrom (chain : Chain) (number : Nat) (value : Option (List α)) (state : σ) :
    (chain.applyFrom family permuter number value state).map Applied.result =
      Stage.applyAll family permuter chain.flatten value state := by
  induction chain generalizing number value state with
  | nil => rfl
  | stage first rest ih =>
      rw [applyFrom, flatten, Stage.applyAll]
      cases first.apply family permuter value state with
      | error fault => rfl
      | ok here =>
          refine Eq.trans ?_ (ih (number + 1) here.value here.state)
          simp only [bind, Except.bind]
          cases applyFrom family permuter (number + 1) rest here.value here.state <;> rfl
  | nest inner rest ihInner ihRest =>
      rw [applyFrom, flatten, Stage.applyAll_append, ← ihInner 0 value state]
      cases applyFrom family permuter 0 inner value state with
      | error fault => rfl
      | ok here =>
          refine Eq.trans ?_ (ihRest (number + 1) here.value here.state)
          simp only [bind, Except.bind]
          cases applyFrom family permuter (number + 1) rest here.value here.state <;> rfl

/-- When the stages in sequence end, the chain ends with their result. -/
theorem apply_eq_ok {chain : Chain} {value : Option (List α)} {state : σ}
    {final : Option (List α) × σ}
    (finished : Stage.applyAll family permuter chain.flatten value state = .ok final) :
    ∃ applied, chain.apply family permuter value state = .ok applied ∧
      applied.result = final := by
  rw [← result_applyFrom chain 0] at finished
  unfold apply
  cases outcome : applyFrom family permuter 0 chain value state with
  | error fault => simp [outcome, Except.map] at finished
  | ok applied =>
      rw [outcome] at finished
      exact ⟨applied, rfl, Except.ok.inj finished⟩

/-- When the chain ends, the stages in sequence end with its result. -/
theorem applyAll_of_applyFrom {chain : Chain} {number : Nat} {value : Option (List α)}
    {state : σ} {applied : Applied α σ}
    (ran : chain.applyFrom family permuter number value state = .ok applied) :
    Stage.applyAll family permuter chain.flatten value state = .ok applied.result := by
  rw [← result_applyFrom chain number, ran]
  rfl

/-- What every stage keeps, if it ends, a chain that ends keeps. -/
theorem keeps_of_applyFrom {Inv : Option (List α) → Prop}
    (step : ∀ (stage : Stage) (value : Option (List α)) (state : σ) (here : Applied α σ),
      Inv value → stage.apply family permuter value state = .ok here → Inv here.value)
    {chain : Chain} {number : Nat} {value : Option (List α)} {state : σ} {applied : Applied α σ}
    (start : Inv value) (ran : chain.applyFrom family permuter number value state = .ok applied) :
    Inv applied.value :=
  Stage.keeps_of_applyAll step start (applyAll_of_applyFrom ran)

/-- What every stage at any level keeps without a fault, the chain keeps. -/
theorem apply_invariant {Inv : Option (List α) → Prop} {chain : Chain}
    (step : ∀ stage ∈ chain.flatten, ∀ value state, Inv value →
      ∃ here, stage.apply family permuter value state = .ok here ∧ Inv here.value)
    {value : Option (List α)} (state : σ) (start : Inv value) :
    ∃ applied, chain.apply family permuter value state = .ok applied ∧ Inv applied.value := by
  obtain ⟨final, finished, holds⟩ := Stage.applyAll_invariant step state start
  obtain ⟨applied, ended, rfl⟩ := apply_eq_ok finished
  exact ⟨applied, ended, holds⟩

/-- What holds of the reports of every stage, and of the reports that a stage was applied,
holds of the reports of a chain. -/
theorem events_invariant {P : Event → Prop}
    (step : ∀ (stage : Stage) (value : Option (List α)) (state : σ) (here : Applied α σ),
      stage.apply family permuter value state = .ok here → ∀ event ∈ here.events, P event)
    (counted : ∀ number remaining, P (.stageApplied number remaining)) (chain : Chain)
    (number : Nat) (value : Option (List α)) (state : σ) {applied : Applied α σ}
    (ran : chain.applyFrom family permuter number value state = .ok applied) :
    ∀ event ∈ applied.events, P event := by
  induction chain generalizing number value state applied with
  | nil =>
      obtain rfl := Except.ok.inj ran
      exact nofun
  | stage first rest ih =>
      obtain ⟨here, ranHere, ran⟩ := FirstFault.bind_eq_ok_iff.1 ran
      obtain ⟨after, ranAfter, built⟩ := FirstFault.bind_eq_ok_iff.1 ran
      obtain rfl := Except.ok.inj built
      intro event member
      rcases List.mem_append.1 member with within | behind
      · exact step _ _ _ _ ranHere event within
      · rcases List.mem_cons.1 behind with rfl | later
        · exact counted number _
        · exact ih _ _ _ ranAfter event later
  | nest inner rest ihInner ihRest =>
      obtain ⟨here, ranHere, ran⟩ := FirstFault.bind_eq_ok_iff.1 ran
      obtain ⟨after, ranAfter, built⟩ := FirstFault.bind_eq_ok_iff.1 ran
      obtain rfl := Except.ok.inj built
      intro event member
      rcases List.mem_append.1 member with within | behind
      · exact ihInner _ _ _ ranHere event within
      · rcases List.mem_cons.1 behind with rfl | later
        · exact counted number _
        · exact ihRest _ _ _ ranAfter event later

end Chain

end DialSelect
