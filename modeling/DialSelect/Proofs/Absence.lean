/-
# DialSelect.Proofs.Absence -- nothing, an empty collection, and records

A chain is given nothing, an empty collection or some records, and these stay apart.
Nothing stays nothing.  Of some records a stage leaves some, or nothing, but never an empty
collection, because what was built by looking is present only if something was found
(`Stage.ne_empty_of_apply`).  An empty collection has nothing to look at: every stage hands
it back, but the rules that name a family, which look all the same and find nothing
(`Stage.apply_empty`).

So an empty collection comes out of a chain if and only if one went in and no stage at any
level names a family (`Chain.absent_empty_apart`).
-/
import DialSelect.Proofs.Positions

namespace DialSelect

set_option autoImplicit false

variable {α σ : Type} {family : α → Option Family} {permuter : Permuter σ}

/-- The rules that name a family, and look at every collection. -/
def Pick.namesFamily : Pick → Bool
  | .firstOf _ | .only _ => true
  | .default | .all | .first | .firstEach | .atMost _ | .reverse => false

def Stage.namesFamily : Stage → Bool
  | .pick rule => rule.namesFamily
  | .shuffle | .arrange _ => false

/-! ## One stage -/

theorem Collection.ne_nil_of_present {records picked : List α}
    (left : present records = some picked) : picked ≠ [] :=
  (present_eq_some_iff.1 left).2

/-- Arranging some records leaves some, or nothing. -/
theorem Collection.ne_nil_of_arrange {records picked : List α} {order : List Nat}
    (nonempty : records ≠ []) (arranged : arrange records order = .ok (some picked)) :
    picked ≠ [] := by
  unfold arrange at arranged
  split at arranged
  · simp only [Except.ok.injEq, Option.some.injEq] at arranged
    exact arranged ▸ nonempty
  · cases gathered : gather records order with
    | error fault => simp [gathered, Except.map] at arranged
    | ok found =>
        simp only [gathered, Except.map, Except.ok.injEq] at arranged
        exact ne_nil_of_present arranged

namespace Pick

/-- Of some records a rule leaves some, or nothing. -/
theorem ne_nil_of_select {rule : Pick} {records picked : List α} (nonempty : records ≠ [])
    (selected : rule.select family records = some picked) : picked ≠ [] := by
  have unchanged (same : some records = some picked) : picked ≠ [] :=
    Option.some.inj same ▸ nonempty
  have single {found : Option α} (same : found.map ([·]) = some picked) : picked ≠ [] := by
    obtain ⟨record, -, rfl⟩ := Option.map_eq_some_iff.1 same
    exact List.cons_ne_nil record []
  cases rule with
  | default =>
      simp only [select] at selected
      split at selected
      · exact unchanged selected
      · split at selected
        · obtain rfl := Option.some.inj selected
          exact List.cons_ne_nil _ []
        · exact single selected
  | all => exact unchanged selected
  | first =>
      obtain ⟨record, rest, rfl⟩ := List.exists_cons_of_ne_nil nonempty
      obtain rfl := Option.some.inj selected
      exact List.cons_ne_nil record []
  | firstEach =>
      simp only [select] at selected
      split at selected
      · exact unchanged selected
      · exact Collection.ne_nil_of_present selected
  | firstOf kind => exact single selected
  | only kind => exact Collection.ne_nil_of_present selected
  | atMost max =>
      simp only [select] at selected
      split at selected
      · exact unchanged selected
      · exact Collection.ne_nil_of_present selected
  | reverse =>
      obtain rfl := Option.some.inj selected
      simpa using nonempty

/-- Of an empty collection the rules that name a family leave nothing, and every other rule
leaves it as it is. -/
theorem select_nil (rule : Pick) :
    rule.select family [] = if rule.namesFamily then none else some [] := by
  cases rule with
  | atMost max => simp [select, namesFamily]
  | default | all | first | firstEach | firstOf _ | only _ | reverse => rfl

end Pick

namespace Stage

/-- No stage makes an empty collection of nothing or of some records. -/
theorem ne_empty_of_apply {stage : Stage} {value : Option (List α)} {state : σ}
    {here : Applied α σ} (solid : value ≠ some [])
    (applied : stage.apply family permuter value state = .ok here) : here.value ≠ some [] := by
  cases value with
  | none =>
      obtain rfl := Except.ok.inj applied
      exact solid
  | some records =>
      have nonempty : records ≠ [] := fun none => solid (congrArg some none)
      intro empty
      rcases cases_of_apply applied with ⟨rule, -, selected, -⟩ | ⟨order, arranged, -⟩
      · exact Pick.ne_nil_of_select nonempty (selected.symm.trans empty) rfl
      · rw [empty] at arranged
        exact Collection.ne_nil_of_arrange nonempty arranged rfl

/-- An empty collection is handed back, or lost to a rule that names a family. -/
theorem apply_empty (stage : Stage) (state : σ) :
    stage.apply family permuter (some []) state =
      .ok ⟨if stage.namesFamily then none else some [], state, []⟩ := by
  cases stage with
  | pick rule =>
      rw [apply_pick, Pick.apply, Option.bind_some, Pick.select_nil]
      cases rule <;> rfl
  | shuffle => rfl
  | arrange order => rfl

/-! ## Stages in sequence -/

theorem applyAll_absent (stages : List Stage) (state : σ) :
    applyAll family permuter stages none state = .ok (none, state) := by
  induction stages with
  | nil => rfl
  | cons stage rest ih => exact ih

theorem ne_empty_of_applyAll {stages : List Stage} {value : Option (List α)} {state : σ}
    {final : Option (List α) × σ} (solid : value ≠ some [])
    (ran : applyAll family permuter stages value state = .ok final) : final.1 ≠ some [] :=
  keeps_of_applyAll (fun _ _ _ _ => ne_empty_of_apply) solid ran

theorem applyAll_empty (stages : List Stage) (state : σ) :
    applyAll family permuter stages (some []) state =
      .ok (if stages.any namesFamily then none else some [], state) := by
  induction stages with
  | nil => rfl
  | cons stage rest ih =>
      rw [applyAll, apply_empty, List.any_cons]
      cases stage.namesFamily with
      | true => exact applyAll_absent rest state
      | false => exact ih

end Stage

/-! ## Chains -/

namespace Chain

theorem apply_empty (family : α → Option Family) (permuter : Permuter σ) (chain : Chain)
    (state : σ) :
    ∃ applied, chain.apply family permuter (some []) state = .ok applied ∧
      applied.value = if chain.flatten.any Stage.namesFamily then none else some [] := by
  have ran : Stage.applyAll family permuter chain.flatten (some []) state = _ :=
    Stage.applyAll_empty chain.flatten state
  obtain ⟨applied, ended, left⟩ := apply_eq_ok ran
  exact ⟨applied, ended, congrArg Prod.fst left⟩

/-- **Nothing, an empty collection and records stay apart.**  Under fair orders a chain makes
nothing of nothing.  Of some records it does not make an empty collection, and neither do its
stages up to any point, on any level.  An empty collection it hands back as it is, if and
only if none of its stages, on any level, names a family, and else nothing. -/
theorem absent_empty_apart (drawn : permuter.Fair) {chain : Chain} (fair : chain.Fair)
    (family : α → Option Family) (state : σ) :
    (∃ applied, chain.apply family permuter none state = .ok applied ∧ applied.value = none) ∧
    (∀ records : List α, records ≠ [] → ∃ applied,
      chain.apply family permuter (some records) state = .ok applied ∧
      applied.value ≠ some [] ∧
      ∀ before after, chain.flatten = before ++ after → ∃ middle,
        Stage.applyAll family permuter before (some records) state = .ok middle ∧
        Stage.applyAll family permuter after middle.1 middle.2 = .ok applied.result ∧
        middle.1 ≠ some []) ∧
    ∃ applied, chain.apply family permuter (some []) state = .ok applied ∧
      (applied.value = some [] ↔ ∀ stage ∈ chain.flatten, stage.namesFamily = false) ∧
      (applied.value = none ↔ ∃ stage ∈ chain.flatten, stage.namesFamily) := by
  refine ⟨?_, ?_, ?_⟩
  · have nothing : Stage.applyAll family permuter chain.flatten none state = .ok (none, state) :=
      Stage.applyAll_absent chain.flatten state
    obtain ⟨applied, ran, left⟩ := apply_eq_ok nothing
    exact ⟨applied, ran, congrArg Prod.fst left⟩
  · intro records nonempty
    have solid : some records ≠ some [] := fun same => nonempty (Option.some.inj same)
    obtain ⟨applied, ran, -⟩ := apply_subperm family drawn fair records state
    have whole := applyAll_of_applyFrom ran
    refine ⟨applied, ran, Stage.ne_empty_of_applyAll solid whole, ?_⟩
    intro before after parts
    rw [parts, Stage.applyAll_append] at whole
    obtain ⟨middle, ranBefore, ranAfter⟩ := FirstFault.bind_eq_ok_iff.1 whole
    exact ⟨middle, ranBefore, ranAfter, Stage.ne_empty_of_applyAll solid ranBefore⟩
  · obtain ⟨applied, ran, value⟩ := apply_empty family permuter chain state
    refine ⟨applied, ran, ?_⟩
    rw [value]
    cases names : chain.flatten.any Stage.namesFamily with
    | true =>
        obtain ⟨stage, member, named⟩ := List.any_eq_true.1 names
        refine ⟨⟨nofun, fun unnamed => ?_⟩, fun _ => ⟨stage, member, named⟩, fun _ => rfl⟩
        cases named.symm.trans (unnamed stage member)
    | false =>
        have unnamed := List.any_eq_false.1 names
        refine ⟨⟨fun _ stage member => ?_, fun _ => rfl⟩, nofun, ?_⟩
        · simpa using unnamed stage member
        · rintro ⟨stage, member, named⟩
          exact absurd named (unnamed stage member)

/-- A cap of nothing, and one level down a shuffle and the first IPv6 record. -/
def cappedToNothing : Chain :=
  .stage (.pick (.atMost 0)) (.nest (.stage .shuffle (.stage (.pick (.firstOf .v6)) .nil)) .nil)

theorem cappedToNothing_fair : cappedToNothing.Fair := by
  intro stage member
  simp only [cappedToNothing, flatten, List.append_nil, List.mem_cons, List.not_mem_nil,
    or_false] at member
  rcases member with rfl | rfl | rfl <;> trivial

theorem absent_empty_apart_capped :
    Permuter.still.Fair ∧ cappedToNothing.Fair ∧ Collection.sockets ≠ [] ∧
    (∃ applied, cappedToNothing.apply (Record.family? .tcp) .still (some Collection.sockets) () =
      .ok applied ∧ applied.value ≠ some []) ∧
    (∃ applied, cappedToNothing.apply (Record.family? .tcp) .still (some []) () = .ok applied ∧
      applied.value = none) ∧
    ∃ applied, cappedMirror.apply (Record.family? .tcp) .still (some []) () = .ok applied ∧
      applied.value = some [] := by
  have drawn := Permuter.still_fair
  have nonempty : Collection.sockets ≠ [] := List.cons_ne_nil _ _
  obtain ⟨-, records, empty⟩ :=
    absent_empty_apart drawn cappedToNothing_fair (Record.family? .tcp) ()
  obtain ⟨-, -, kept⟩ := absent_empty_apart drawn cappedMirror_fair (Record.family? .tcp) ()
  obtain ⟨left, ranLeft, solid, -⟩ := records Collection.sockets nonempty
  obtain ⟨lost, ranLost, -, named⟩ := empty
  obtain ⟨whole, ranWhole, unnamed, -⟩ := kept
  have names : ∃ stage ∈ cappedToNothing.flatten, stage.namesFamily :=
    ⟨.pick (.firstOf .v6), by simp [cappedToNothing, flatten], rfl⟩
  have silent : ∀ stage ∈ cappedMirror.flatten, stage.namesFamily = false := by
    simp [cappedMirror, flatten, Stage.namesFamily, Pick.namesFamily]
  exact ⟨drawn, cappedToNothing_fair, nonempty, ⟨left, ranLeft, solid⟩,
    ⟨lost, ranLost, named.2 names⟩, whole, ranWhole, unnamed.2 silent⟩

end Chain

end DialSelect
