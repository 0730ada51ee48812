/-
# DialSelect.Proofs.Sequence -- chains compose in sequence

What a chain does is told by the collection and the permuter's state that it hands on, or
by its fault (`Chain.run`).  By that measure a chain is its stages of every level, one after
the other (`Chain.run_eq_applyAll`), so only their order counts and not how they are nested
(`Chain.run_eq_of_flatten`), and a chain behind another goes on where that one stops, also
with the permuter (`Chain.run_append`).

A shuffle has nothing to choose where at most one record is left, and asks for no order
(`Stage.apply_of_few`).
-/
import DialSelect.Proofs.Flattening

namespace DialSelect

set_option autoImplicit false

variable {α σ : Type} (family : α → Option Family) (permuter : Permuter σ)

/-- A shuffle: by the shared permuter, or by an order of its own, which is what a generator
answers that no other stage asks. -/
def Stage.shuffles : Stage → Bool
  | .pick _ => false
  | .shuffle | .arrange _ => true

/-- Of at most one record, a shuffle makes what it received, and asks for no order: the
permuter's state stays as it is, whatever the permuter would answer. -/
theorem Stage.apply_of_few {stage : Stage} (shuffles : stage.shuffles) {value : Option (List α)}
    (few : presentCount value ≤ 1) (state : σ) :
    stage.apply family permuter value state = .ok ⟨value, state, []⟩ := by
  cases value with
  | none => rfl
  | some records =>
      have few : records.length ≤ 1 := few
      cases stage with
      | pick rule => cases shuffles
      | shuffle => exact if_pos few
      | arrange order =>
          simp only [apply, Collection.arrange, if_pos few]
          rfl

namespace Chain

/-- What a chain does to a collection and to the permuter. -/
def run (chain : Chain) (value : Option (List α)) (state : σ) :
    Except IndexFault (Option (List α) × σ) :=
  (chain.apply family permuter value state).map Applied.result

theorem run_eq_applyAll (chain : Chain) (value : Option (List α)) (state : σ) :
    chain.run family permuter value state =
      Stage.applyAll family permuter chain.flatten value state :=
  result_applyFrom chain 0 value state

/-- Chains with the same stages in the same order do the same, however they are nested. -/
theorem run_eq_of_flatten {chain other : Chain} (same : chain.flatten = other.flatten) :
    chain.run family permuter = other.run family permuter := by
  funext value state
  rw [run_eq_applyAll, run_eq_applyAll, same]

/-- A chain behind another goes on where that one stops. -/
theorem run_append (first next : Chain) (value : Option (List α)) (state : σ) :
    (first.append next).run family permuter value state =
      (first.run family permuter value state).bind fun middle =>
        next.run family permuter middle.1 middle.2 := by
  rw [run_eq_applyAll, flatten_append, Stage.applyAll_append, run_eq_applyAll]
  simp only [run_eq_applyAll]

theorem ofList_append (first next : List Stage) :
    ofList (first ++ next) = (ofList first).append (ofList next) := by
  induction first with
  | nil => rfl
  | cons stage rest ih => exact congrArg (Chain.stage stage) ih

theorem ofPolicies_append (first next : List Policy) :
    ofPolicies (first ++ next) = (ofPolicies first).append (ofPolicies next) := by
  rw [ofPolicies, List.map_append, ofList_append]
  rfl

/-- **A chain is sequential composition with one permuter.**  For every permuter, every
collection or its absence and every state, a tree of stages does what the list of its leaves
does, applied one after the other: the same collection, the same fault, the same state of the
permuter.  So neither nesting nor bracketing matters, chains and lists of policies that are
put one behind the other are run one after the other, and the empty chain does nothing.  A
shuffle, by the shared permuter or by an order of its own, that is reached by absence or by
at most one record hands on what it received and draws nothing. -/
theorem runs_in_sequence :
    (∀ (chain : Chain) (value : Option (List α)) (state : σ),
      chain.run family permuter value state =
        Stage.applyAll family permuter chain.flatten value state) ∧
    (∀ chain other : Chain, chain.flatten = other.flatten →
      chain.run family permuter = other.run family permuter) ∧
    (∀ inner rest : Chain,
      (nest inner rest).run family permuter = (inner.append rest).run family permuter) ∧
    (∀ first next last : Chain, (nest (nest first next) last).run family permuter =
      (nest first (nest next last)).run family permuter) ∧
    (∀ (first next : Chain) (value : Option (List α)) (state : σ),
      (first.append next).run family permuter value state =
        (first.run family permuter value state).bind fun middle =>
          next.run family permuter middle.1 middle.2) ∧
    (∀ (first next : List Policy) (value : Option (List α)) (state : σ),
      (ofPolicies (first ++ next)).run family permuter value state =
        ((ofPolicies first).run family permuter value state).bind fun middle =>
          (ofPolicies next).run family permuter middle.1 middle.2) ∧
    (∀ (value : Option (List α)) (state : σ),
      nil.run family permuter value state = .ok (value, state)) ∧
    ∀ (stage : Stage) (value : Option (List α)) (state : σ),
      stage.shuffles → presentCount value ≤ 1 →
        stage.apply family permuter value state = .ok ⟨value, state, []⟩ := by
  refine ⟨run_eq_applyAll family permuter, fun chain other => run_eq_of_flatten family permuter,
    fun inner rest => ?_, fun first next last => ?_, run_append family permuter,
    fun first next value state => ?_, fun value state => rfl,
    fun stage value state shuffles few => Stage.apply_of_few family permuter shuffles few state⟩
  · exact run_eq_of_flatten family permuter (flatten_append inner rest).symm
  · exact run_eq_of_flatten family permuter (List.append_assoc _ _ _)
  · rw [ofPolicies_append, run_append]

end Chain

/-- A permuter that turns everything round and counts how often it is asked. -/
def Permuter.counting : Permuter Nat where
  draw n asked := ((List.range n).reverse, asked + 1)

/-- Shuffles at three levels, the last of them behind a cap of one. -/
def Chain.nested : Chain :=
  .nest (.stage .shuffle (.nest (.stage (.pick .all) (.stage .shuffle .nil)) .nil))
    (.stage (.pick (.atMost 1)) (.stage .shuffle .nil))

theorem Chain.runs_in_sequence_nested :
    nested.flatten = [.shuffle, .pick .all, .shuffle, .pick (.atMost 1), .shuffle] ∧
    nested.run (fun _ : Nat => some .v4) .counting (some [1, 2, 3]) 0 = .ok (some [1], 2) ∧
    (ofList nested.flatten).run (fun _ : Nat => some .v4) .counting (some [1, 2, 3]) 0 =
      .ok (some [1], 2) ∧
    Stage.shuffle.apply (fun _ : Nat => some .v4) .counting (some [1]) 2 = .ok ⟨some [1], 2, []⟩ := by
  obtain ⟨sequence, unnested, -, -, -, -, -, few⟩ :=
    runs_in_sequence (fun _ : Nat => some .v4) .counting
  have ran : nested.run (fun _ : Nat => some .v4) .counting (some [1, 2, 3]) 0 =
      .ok (some [1], 2) := (sequence nested (some [1, 2, 3]) 0).trans rfl
  have flat : (ofList nested.flatten).flatten = nested.flatten := rfl
  exact ⟨rfl, ran, (congrFun (congrFun (unnested _ _ flat) _) _).trans ran,
    few .shuffle (some [1]) 2 rfl (Nat.le_refl 1)⟩

end DialSelect
