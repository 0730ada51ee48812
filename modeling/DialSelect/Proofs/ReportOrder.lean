/-
# DialSelect.Proofs.ReportOrder -- what a chain reports, and in which order

The stages of all levels run one after the other, and what each leaves can be told without any
report.  The reports of a chain are read off that (`Chain.log`): what an item reports of its own
-- a nested chain its log, with its own numbers from zero; the default choice its warning, where
it receives two records or more and none has a family -- and then that the item was applied,
with its number in its own chain and the records that are left.

So each item of the tree counts once, whatever it receives (`Chain.countP_log`): absence cuts
no report off.
-/
import DialSelect.Proofs.Tally

namespace DialSelect

set_option autoImplicit false

variable {α σ : Type} {family : α → Option Family} {permuter : Permuter σ}

/-- What a stage says about the records it receives: the default choice warns of two or more that
have no family. -/
def Stage.warning (family : α → Option Family) (stage : Stage) (received : Option (List α)) :
    List Event :=
  match stage, received with
  | .pick .default, some records =>
      if 2 ≤ records.length ∧ ∀ record ∈ records, family record = none then
        [.noAddressFamily records.length]
      else []
  | _, _ => []

namespace Chain

/-- The number of stages at all levels, a nested chain counting for one more. -/
def size : Chain → Nat
  | .nil => 0
  | .stage _ rest => rest.size + 1
  | .nest inner rest => inner.size + 1 + rest.size

/-- The reports of the items of a chain, the first of which has that number.  Of what its stages
do, only what they leave is looked at: `left k` is there after `k` stages of all levels. -/
def log (family : α → Option Family) (number : Nat) (left : Nat → Option (List α)) :
    Chain → List Event
  | .nil => []
  | .stage first rest =>
      first.warning family (left 0) ++
        .stageApplied number (presentCount (left 1)) ::
          log family (number + 1) (fun k => left (1 + k)) rest
  | .nest inner rest =>
      let ended := inner.flatten.length
      log family 0 left inner ++
        .stageApplied number (presentCount (left ended)) ::
          log family (number + 1) (fun k => left (ended + k)) rest

end Chain

/-! ## Stages -/

namespace Pick

/-- The default choice finds nothing of two records or more exactly where none has a family. -/
theorem select_default_eq_none_iff {records : List α} (long : 2 ≤ records.length) :
    select family .default records = none ↔ ∀ record ∈ records, family record = none := by
  have absent (kind : Family) : select family (.firstOf kind) records = none ↔
      ∀ record ∈ records, family record ≠ some kind := by
    simp [select, firstRecord?]
  rw [select_default_of_long (Nat.not_le_of_lt long), Option.or_eq_none_iff, absent, absent]
  constructor
  · rintro ⟨noFour, noSix⟩ record member
    cases has : family record with
    | none => rfl
    | some kind =>
        cases kind with
        | v4 => exact absurd has (noFour record member)
        | v6 => exact absurd has (noSix record member)
  · intro blind
    constructor <;> intro record member has <;> cases (blind record member).symm.trans has

theorem reports_default (records : List α) :
    reports family .default records = (Stage.pick .default).warning family (some records) := by
  refine if_congr (and_congr_right fun long => ?_) rfl rfl
  rw [Option.isNone_iff_eq_none, select_default_eq_none_iff long]

end Pick

namespace Stage

theorem warning_none (stage : Stage) : stage.warning family (none : Option (List α)) = [] := by
  cases stage with
  | pick rule => cases rule <;> rfl
  | shuffle | arrange order => rfl

/-- A stage reports its warning and nothing else. -/
theorem events_eq_warning {stage : Stage} {value : Option (List α)} {state : σ}
    {here : Applied α σ} (applied : stage.apply family permuter value state = .ok here) :
    here.events = stage.warning family value := by
  cases value with
  | none =>
      obtain rfl := Except.ok.inj applied
      exact (warning_none stage).symm
  | some records =>
      cases stage with
      | pick rule =>
          obtain rfl := Except.ok.inj applied
          cases rule with
          | default => exact Pick.reports_default records
          | all | first | firstEach | firstOf _ | only _ | atMost _ | reverse => rfl
      | shuffle | arrange order =>
          rcases cases_of_apply applied with ⟨rule, ⟨⟩, -⟩ | ⟨-, -, silent⟩
          exact silent

theorem level_of_warning {stage : Stage} {received : Option (List α)} {event : Event}
    (member : event ∈ stage.warning family received) : event.level = .warn := by
  unfold warning at member
  split at member
  · split at member
    · obtain rfl := List.mem_singleton.1 member
      rfl
    · cases member
  · cases member

/-- If stages run without a fault, so do the first of them, however many. -/
theorem exists_applyAll_take {stages : List Stage} {value : Option (List α)} {state : σ}
    {final : Option (List α) × σ}
    (ran : applyAll family permuter stages value state = .ok final) (k : Nat) :
    ∃ middle, applyAll family permuter (stages.take k) value state = .ok middle := by
  rw [← List.take_append_drop k stages, applyAll_append] at ran
  obtain ⟨middle, first, -⟩ := FirstFault.bind_eq_ok_iff.1 ran
  exact ⟨middle, first⟩

/-- What stages leave on their way: `left k` is there after the first `k` of them. -/
def Leaves (family : α → Option Family) (permuter : Permuter σ) (stages : List Stage)
    (value : Option (List α)) (state : σ) (left : Nat → Option (List α)) : Prop :=
  ∀ k ≤ stages.length,
    ∃ after, applyAll family permuter (stages.take k) value state = .ok (left k, after)

variable {stages first next : List Stage} {value : Option (List α)} {state : σ}
  {left : Nat → Option (List α)}

theorem exists_leaves {final : Option (List α) × σ}
    (ran : applyAll family permuter stages value state = .ok final) :
    ∃ left, Leaves family permuter stages value state left := by
  choose middle taken using exists_applyAll_take ran
  exact ⟨fun k => (middle k).1, fun k _ => ⟨(middle k).2, taken k⟩⟩

namespace Leaves

theorem at_start (leaves : Leaves family permuter stages value state left) : left 0 = value := by
  obtain ⟨after, taken⟩ := leaves 0 (Nat.zero_le _)
  exact (congrArg Prod.fst (Except.ok.inj taken)).symm

theorem at_end (leaves : Leaves family permuter stages value state left)
    {final : Option (List α) × σ}
    (ran : applyAll family permuter stages value state = .ok final) :
    left stages.length = final.1 := by
  obtain ⟨after, taken⟩ := leaves stages.length (Nat.le_refl _)
  rw [List.take_length, ran] at taken
  exact (congrArg Prod.fst (Except.ok.inj taken)).symm

/-- The first of some stages leave what they leave alone. -/
theorem front (leaves : Leaves family permuter (first ++ next) value state left) :
    Leaves family permuter first value state left := by
  intro k within
  obtain ⟨after, taken⟩ := leaves k (by rw [List.length_append]; omega)
  rw [List.take_append_of_le_length within] at taken
  exact ⟨after, taken⟩

/-- The others leave what they leave of what the first did. -/
theorem behind (leaves : Leaves family permuter (first ++ next) value state left)
    {middle : Option (List α) × σ}
    (ran : applyAll family permuter first value state = .ok middle) :
    Leaves family permuter next middle.1 middle.2 (fun k => left (first.length + k)) := by
  intro k within
  obtain ⟨after, taken⟩ := leaves (first.length + k) (by rw [List.length_append]; omega)
  rw [List.take_length_add_append, applyAll_append, ran] at taken
  exact ⟨after, taken⟩

end Leaves

end Stage

/-! ## Chains -/

namespace Chain

variable {left : Nat → Option (List α)}

/-- The reports of a chain are its log of what its stages leave. -/
theorem events_eq_log (chain : Chain) (number : Nat) {value : Option (List α)} {state : σ}
    {applied : Applied α σ}
    (ran : chain.applyFrom family permuter number value state = .ok applied)
    (leaves : Stage.Leaves family permuter chain.flatten value state left) :
    applied.events = chain.log family number left := by
  induction chain generalizing number value state applied left with
  | nil =>
      obtain rfl := Except.ok.inj ran
      rfl
  | stage first rest ih =>
      obtain ⟨here, ranHere, ran⟩ := FirstFault.bind_eq_ok_iff.1 ran
      obtain ⟨after, ranAfter, built⟩ := FirstFault.bind_eq_ok_iff.1 ran
      obtain rfl := Except.ok.inj built
      have alone : Stage.applyAll family permuter [first] value state = .ok here.result := by
        rw [Stage.applyAll, ranHere]
        rfl
      have leaves : Stage.Leaves family permuter ([first] ++ rest.flatten) value state left := leaves
      have count : left 1 = here.value := leaves.front.at_end alone
      rw [log, leaves.front.at_start, ← Stage.events_eq_warning ranHere, count,
        ih (number + 1) ranAfter (leaves.behind alone)]
      rfl
  | nest inner rest ihInner ihRest =>
      obtain ⟨here, ranHere, ran⟩ := FirstFault.bind_eq_ok_iff.1 ran
      obtain ⟨after, ranAfter, built⟩ := FirstFault.bind_eq_ok_iff.1 ran
      obtain rfl := Except.ok.inj built
      have alone := applyAll_of_applyFrom ranHere
      have leaves : Stage.Leaves family permuter (inner.flatten ++ rest.flatten) value state left :=
        leaves
      have count : left inner.flatten.length = here.value := leaves.front.at_end alone
      rw [log, ← ihInner 0 ranHere leaves.front, ← ihRest (number + 1) ranAfter (leaves.behind alone),
        count]

/-- A log tells of each stage and nested chain once that it was applied. -/
theorem countP_log (chain : Chain) (number : Nat) (left : Nat → Option (List α)) :
    (chain.log family number left).countP (·.level = .trace) = chain.size := by
  induction chain generalizing number left with
  | nil => rfl
  | stage first rest ih =>
      have quiet : (first.warning family (left 0)).countP (·.level = .trace) = 0 := by
        refine List.countP_eq_zero.2 fun event member => ?_
        rw [Stage.level_of_warning member]
        decide
      rw [log, List.countP_append, quiet, List.countP_cons_of_pos (by rfl), ih, size, Nat.zero_add]
  | nest inner rest ihInner ihRest =>
      rw [log, List.countP_append, ihInner, List.countP_cons_of_pos (by rfl), ihRest, size]
      omega

/-- **The reports of a chain come in the order of its tree.**  If no stage at any level meets a
fault, the chain ends with what the stages leave in sequence, and its reports are its log of what
they leave on their way.  That tells of each stage and of each nested chain once, also where
nothing is received. -/
theorem reports_in_order {network : Network} {chain : Chain}
    {value : Option (List network.Record)} {state : σ}
    {final : Option (List network.Record) × σ}
    (noFault : Stage.applyAll (Record.family? network) permuter chain.flatten value state =
      .ok final) :
    ∃ applied left, chain.apply (Record.family? network) permuter value state = .ok applied ∧
      applied.result = final ∧
      (∀ k ≤ chain.flatten.length, ∃ after,
        Stage.applyAll (Record.family? network) permuter (chain.flatten.take k) value state =
          .ok (left k, after)) ∧
      applied.events = chain.log (Record.family? network) 0 left ∧
      applied.events.countP (·.level = .trace) = chain.size := by
  obtain ⟨applied, ran, result⟩ := apply_eq_ok noFault
  obtain ⟨left, leaves⟩ := Stage.exists_leaves noFault
  have told := events_eq_log chain 0 ran leaves
  refine ⟨applied, left, ran, result, leaves, told, ?_⟩
  rw [told, countP_log]

/-- The default choice one level down, behind a reversal. -/
def mirroredDefault : Chain :=
  .stage (.pick .reverse) (.nest (.stage (.pick .all) (.stage (.pick .default) .nil))
    (.stage .shuffle .nil))

/-- Of two paths the default choice leaves none, and the shuffle behind it receives nothing. -/
theorem reports_in_order_mirrored :
    let paths : List Network.unix.Record := [⟨"/run/a"⟩, ⟨"/run/b"⟩]
    let family := Record.family? .unix
    Stage.applyAll family .still mirroredDefault.flatten (some paths) () = .ok (none, ()) ∧
    ∃ applied left, mirroredDefault.apply family .still (some paths) () = .ok applied ∧
      applied.events = mirroredDefault.log family 0 left ∧
      applied.events = [.stageApplied 0 2, .stageApplied 0 2, .noAddressFamily 2,
        .stageApplied 1 0, .stageApplied 1 0, .stageApplied 2 0] ∧
      applied.events.countP (·.level = .trace) = 5 := by
  intro paths family
  have noFault : Stage.applyAll family .still mirroredDefault.flatten (some paths) () =
    .ok (none, ()) := rfl
  obtain ⟨applied, left, ran, -, -, told, count⟩ := reports_in_order noFault
  have explicit : mirroredDefault.apply family .still (some paths) () = .ok ⟨none, (),
    [.stageApplied 0 2, .stageApplied 0 2, .noAddressFamily 2, .stageApplied 1 0,
      .stageApplied 1 0, .stageApplied 2 0]⟩ := rfl
  obtain rfl := Except.ok.inj (ran.symm.trans explicit)
  exact ⟨noFault, _, left, ran, told, rfl, count⟩

end Chain

end DialSelect
