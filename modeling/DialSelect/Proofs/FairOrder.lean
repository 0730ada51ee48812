/-
# DialSelect.Proofs.FairOrder -- orders that lose nothing

An order is fair when it is a rearrangement of the indices it is asked for.  Under
fair orders gathering meets no fault, and a stage that reorders hands on a
rearrangement of what it received (`Stage.apply_reorder`).
-/
import DialSelect.Proofs.Flattening

namespace DialSelect

set_option autoImplicit false

variable {α σ : Type}

/-- A stage with an order of its own has a fair one. -/
def Stage.Fair : Stage → Prop
  | .arrange order => ∀ n, (order n).Perm (List.range n)
  | .pick _ => True
  | .shuffle => True

def Chain.Fair (chain : Chain) : Prop :=
  ∀ stage ∈ chain.flatten, stage.Fair

theorem Chain.flatten_ofList (stages : List Stage) : (Chain.ofList stages).flatten = stages := by
  induction stages with
  | nil => rfl
  | cons stage rest ih => rw [ofList, flatten, ih]

theorem Chain.flatten_ofPolicies (policies : List Policy) :
    (Chain.ofPolicies policies).flatten = policies.map Stage.ofPolicy :=
  flatten_ofList _

/-- The chain of a list of policies carries no order of its own. -/
theorem Chain.fair_ofPolicies (policies : List Policy) : (Chain.ofPolicies policies).Fair := by
  intro stage member
  rw [flatten_ofPolicies] at member
  obtain ⟨policy, -, rfl⟩ := List.mem_map.1 member
  cases policy <;> trivial

namespace Collection

theorem map_getElem?_range (records : List α) :
    (List.range records.length).map (records[·]?) = records.map some := by
  apply List.ext_getElem
  · simp
  · intro i left right
    simp

theorem gather_of_perm {records : List α} {order : List Nat}
    (fair : order.Perm (List.range records.length)) :
    ∃ picked, gather records order = .ok picked ∧ picked.Perm records := by
  have inRange : ∀ i ∈ order, i < records.length := fun i member =>
    List.mem_range.1 (fair.subset member)
  refine ⟨order.filterMap (records[·]?), gather_eq_ok_iff.2 ?_, ?_⟩
  · clear fair
    induction order with
    | nil => rfl
    | cons i rest ih =>
        obtain ⟨record, here⟩ : ∃ record, records[i]? = some record :=
          ⟨_, List.getElem?_eq_getElem (inRange i List.mem_cons_self)⟩
        rw [List.filterMap_cons_some here, List.map_cons, List.map_cons, here,
          ih fun j member => inRange j (List.mem_cons_of_mem i member)]
  · have all : (List.range records.length).filterMap (records[·]?) = records := by
      have shown := congrArg (List.filterMap id) (map_getElem?_range records)
      simpa [List.filterMap_map, Function.comp_def] using shown
    exact (fair.filterMap (records[·]?)).trans (List.Perm.of_eq all)

/-- Arranging by a fair order only rearranges, and loses no collection. -/
theorem arrange_of_perm {records : List α} {order : List Nat}
    (fair : order.Perm (List.range records.length)) :
    ∃ picked, arrange records order = .ok (some picked) ∧ picked.Perm records := by
  unfold arrange
  split
  · exact ⟨records, rfl, .refl records⟩
  · rename_i long
    obtain ⟨picked, gathered, same⟩ := gather_of_perm fair
    have nonempty : picked ≠ [] := by
      rintro rfl
      have none := same.length_eq
      simp only [List.length_nil] at none
      omega
    refine ⟨picked, ?_, same⟩
    rw [gathered]
    exact congrArg Except.ok (present_eq_some_iff.2 ⟨rfl, nonempty⟩)

end Collection

namespace Stage

/-- The stages that only rearrange: the shuffles and the reversal. -/
def reorders : Stage → Bool
  | .pick rule => rule = .reverse
  | .shuffle => true
  | .arrange _ => true

/-- A fair shuffle and the reversal only rearrange, and lose no collection. -/
theorem apply_reorder (family : α → Option Family) {permuter : Permuter σ}
    (drawn : permuter.Fair) {stage : Stage} (fair : stage.Fair) (reorder : stage.reorders)
    (records : List α) (state : σ) :
    ∃ here picked, stage.apply family permuter (some records) state = .ok here ∧
      here.value = some picked ∧ picked.Perm records := by
  cases stage with
  | pick rule =>
      obtain rfl : rule = .reverse := by simpa [reorders] using reorder
      exact ⟨_, records.reverse, rfl, rfl, records.reverse_perm⟩
  | shuffle =>
      by_cases short : records.length ≤ 1
      · exact ⟨⟨some records, state, []⟩, records, by simp [apply, short], rfl, .refl records⟩
      · obtain ⟨picked, arranged, same⟩ := Collection.arrange_of_perm (drawn records.length state)
        refine ⟨⟨some picked, (permuter.draw records.length state).2, []⟩, picked, ?_, rfl, same⟩
        simp only [apply, short, if_false, arranged]
        rfl
  | arrange order =>
      obtain ⟨picked, arranged, same⟩ := Collection.arrange_of_perm (fair records.length)
      refine ⟨⟨some picked, state, []⟩, picked, ?_, rfl, same⟩
      simp only [apply, arranged]
      rfl

end Stage

end DialSelect
