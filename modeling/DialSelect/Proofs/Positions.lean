/-
# DialSelect.Proofs.Positions -- a chain leaves records where they stood

What a chain leaves are records at distinct positions of the collection it was
given, each as it was (`Chain.apply_at_positions`).  Equal records may stand at
several positions, so the statement is about positions, not about records.

One stage leaves out records or rearranges them, so along a chain what is left
stays a part of what the chain was given, in its order as long as no stage
reorders (`Chain.apply_subperm`).  Run over the positions themselves, that says
which positions are left.
-/
import DialSelect.Proofs.Naturality
import DialSelect.Record
import Mathlib.Data.List.Perm.Subperm

namespace DialSelect

set_option autoImplicit false

variable {α σ : Type} {permuter : Permuter σ}

/-- No stage at any level reorders. -/
def Chain.InOrder (chain : Chain) : Prop :=
  ∀ stage ∈ chain.flatten, stage.reorders = false

/-- A stage leaves a part of what it receives, and keeps its order unless it
reorders. -/
theorem Stage.apply_subperm (family : α → Option Family) (drawn : permuter.Fair)
    {stage : Stage} (fair : stage.Fair) (records : List α) (state : σ) :
    ∃ here, stage.apply family permuter (some records) state = .ok here ∧
      ∀ picked, here.value = some picked →
        picked.Subperm records ∧ (stage.reorders = false → picked.Sublist records) := by
  cases reorder : stage.reorders with
  | true =>
      obtain ⟨here, rearranged, applied, left, same⟩ :=
        apply_reorder family drawn fair reorder records state
      refine ⟨here, applied, fun picked value => ⟨?_, nofun⟩⟩
      obtain rfl := Option.some.inj (left.symm.trans value)
      exact same.subperm
  | false =>
      cases stage with
      | pick rule =>
          have keepsOrder : rule ≠ .reverse := by simpa [reorders] using reorder
          refine ⟨_, rfl, fun picked value => ?_⟩
          have left := Pick.select_sublist keepsOrder value
          exact ⟨left.subperm, fun _ => left⟩
      | shuffle => cases reorder
      | arrange order => cases reorder

/-- A chain leaves a part of what it receives, and keeps its order if no stage
reorders. -/
theorem Chain.apply_subperm (family : α → Option Family) (drawn : permuter.Fair)
    {chain : Chain} (fair : chain.Fair) (records : List α) (state : σ) :
    ∃ applied, chain.apply family permuter (some records) state = .ok applied ∧
      ∀ picked, applied.value = some picked →
        picked.Subperm records ∧ (chain.InOrder → picked.Sublist records) := by
  let Inv (value : Option (List α)) : Prop := ∀ picked, value = some picked →
    picked.Subperm records ∧ (chain.InOrder → picked.Sublist records)
  have start : Inv (some records) := by
    rintro picked ⟨⟩
    exact ⟨.refl records, fun _ => .refl records⟩
  have step : ∀ stage ∈ chain.flatten, ∀ value state, Inv value →
      ∃ here, stage.apply family permuter value state = .ok here ∧ Inv here.value := by
    intro stage member value state kept
    cases value with
    | none => exact ⟨_, rfl, nofun⟩
    | some before =>
        obtain ⟨part, ordered⟩ := kept before rfl
        obtain ⟨here, applied, left⟩ :=
          Stage.apply_subperm family drawn (fair stage member) before state
        refine ⟨here, applied, fun picked value => ?_⟩
        obtain ⟨smaller, inOrder⟩ := left picked value
        exact ⟨smaller.trans part,
          fun keeps => (inOrder (keeps stage member)).trans (ordered keeps)⟩
  exact apply_invariant step state start

/-- **What a chain leaves stood in the collection at distinct positions.**  Under
fair orders a chain does not fail, and it leaves nothing or the records at some
distinct positions, unchanged and so no more than there were; if no stage reorders,
in their order. -/
theorem Chain.apply_at_positions {network : Network} (drawn : permuter.Fair) {chain : Chain}
    (fair : chain.Fair) (records : List network.Record) (state : σ) :
    ∃ applied,
      chain.apply (Record.family? network) permuter (some records) state = .ok applied ∧
      (applied.value = none ∨ ∃ order picked, applied.value = some picked ∧
        Collection.gather records order = .ok picked ∧ order.Nodup ∧
        (∀ index ∈ order, index < records.length) ∧ picked.length ≤ records.length ∧
        (chain.InOrder → order.Pairwise (· < ·))) := by
  obtain ⟨places, ran, left⟩ :=
    apply_subperm (Collection.familyAt (Record.family? network) records) drawn fair
      (List.range records.length) state
  obtain ⟨applied, ended, outcome⟩ := apply_of_positions ran
  refine ⟨applied, ended, ?_⟩
  rcases outcome with ⟨-, absent⟩ | ⟨order, picked, chosen, value, gathered⟩
  · exact .inl absent
  · obtain ⟨part, ordered⟩ := left order chosen
    have lengths := FirstFault.length_eq_of_mapM gathered
    refine .inr ⟨order, picked, value, gathered, ?_, ?_, ?_, ?_⟩
    · obtain ⟨places, same, inside⟩ := part
      exact same.nodup_iff.1 (List.nodup_range.sublist inside)
    · exact fun index member => List.mem_range.1 (part.subset member)
    · simpa [lengths] using part.length_le
    · exact fun keeps => List.pairwise_lt_range.sublist (ordered keeps)

/-- Two equal IPv4 sockets with an IPv6 socket between them. -/
def Collection.sockets : List Network.tcp.Record :=
  [Socket.v4 ⟨192, 0, 2, 1⟩ 80, Socket.v6 ⟨[0x2001, 0xDB8, 0, 0, 0, 0, 0, 1], rfl⟩ 443 0,
    Socket.v4 ⟨192, 0, 2, 1⟩ 80]

/-- At most two records, and these, one level down, in the reverse order. -/
def Chain.cappedMirror : Chain :=
  .stage (.pick (.atMost 2)) (.nest (.stage (.arrange fun n => (List.range n).reverse) .nil) .nil)

theorem Chain.cappedMirror_fair : cappedMirror.Fair := by
  intro stage member
  simp only [cappedMirror, flatten, List.append_nil, List.mem_cons, List.not_mem_nil,
    or_false] at member
  rcases member with rfl | rfl
  · trivial
  · exact fun n => (List.range n).reverse_perm

theorem Chain.apply_at_positions_cappedMirror :
    Permuter.still.Fair ∧ cappedMirror.Fair ∧ ∃ applied,
      cappedMirror.apply (Record.family? .tcp) .still (some Collection.sockets) () =
        .ok applied ∧
      (applied.value = none ∨ ∃ order picked, applied.value = some picked ∧
        Collection.gather Collection.sockets order = .ok picked ∧ order.Nodup ∧
        (∀ index ∈ order, index < Collection.sockets.length) ∧
        picked.length ≤ Collection.sockets.length ∧
        (cappedMirror.InOrder → order.Pairwise (· < ·))) :=
  ⟨Permuter.still_fair, cappedMirror_fair,
    apply_at_positions Permuter.still_fair cappedMirror_fair Collection.sockets ()⟩

end DialSelect
