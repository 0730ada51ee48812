/-
# DialSelect.Proofs.Draws -- every exchange of a shuffle is in range

The exchange shuffle takes several choices from one draw.  The draw is below the product
of the next ranges (`below_lt`, `batch_spec`); a choice is its remainder by the first of
these ranges, and the quotient is a draw for the others (`choose_lt`).  So what is left of
a draw stays below the product of the ranges that are left, whatever the words of the
stream are, also where a new draw begins.

`exchange?` is the shuffle with every exchange checked.  As every choice is in range, it
meets no fault, and it is the shuffle (`exchange?_eq`).  So the answers of a seed are
rearrangements that no exchange had to be left out of, however many answers there were
before (`seeded_rearranges`).
-/
import DialSelect.Proofs.Agreement
import Mathlib.Data.List.Nodup
import Mathlib.Data.Nat.Factorial.Basic

namespace DialSelect.Permuter

set_option autoImplicit false

/-! ## One draw -/

/-- A bounded draw is below its bound, whatever the words are.  The carry of the second
word finds room: the first word alone reaches the last number only with a low half that
asks for no second word. -/
theorem below_lt {bound : Nat} (positive : 0 < bound) (fits : bound < UInt32.size)
    (stream : KeyStream) : (below bound stream).1 < bound := by
  have word : stream.next.1.toNat + 1 ≤ UInt32.size := UInt32.toNat_lt_size _
  have product := Nat.mul_le_mul_right bound word
  rw [Nat.add_mul, Nat.one_mul] at product
  simp only [below]
  generalize stream.next.1.toNat * bound = drawn at product ⊢
  simp only [UInt32.size] at fits product ⊢
  split
  · dsimp only
    split <;> omega
  · dsimp only
    omega

/-- The product of the next ranges is extended by the range behind them. -/
theorem extendBatch_spec {m : Nat} (fuel : Nat) {count : Nat}
    (fits : m.ascFactorial count < UInt32.size) :
    let batch := extendBatch fuel (m.ascFactorial count) (m + count) count
    batch.1 = m.ascFactorial batch.2 ∧ batch.1 < UInt32.size ∧ count ≤ batch.2 := by
  induction fuel generalizing count with
  | zero => exact ⟨rfl, fits, Nat.le_refl count⟩
  | succ fuel ih =>
      simp only [extendBatch]
      split
      · rename_i more
        have next : m.ascFactorial count * (m + count) = m.ascFactorial (count + 1) := by
          rw [Nat.ascFactorial_succ, Nat.mul_comm]
        rw [next] at more ⊢
        obtain ⟨product, small, longer⟩ := ih more
        exact ⟨product, small, Nat.le_of_succ_le longer⟩
      · exact ⟨rfl, fits, Nat.le_refl count⟩

/-- A batch is the product of the ranges that it counts, of one at least, and neither
empty nor beyond a word. -/
theorem batch_spec {m : Nat} (positive : 0 < m) (fits : m < UInt32.size) :
    (batch m).1 = m.ascFactorial (batch m).2 ∧ 0 < (batch m).1 ∧ (batch m).1 < UInt32.size ∧
      0 < (batch m).2 := by
  have one : m.ascFactorial 1 = m := by simp [Nat.ascFactorial]
  have single : m.ascFactorial 1 < UInt32.size := one.symm ▸ fits
  obtain ⟨product, small, some⟩ := extendBatch_spec 32 single
  rw [one] at product small some
  refine ⟨product, ?_, small, some⟩
  have filled : 0 < m.ascFactorial (batch m).2 := by
    obtain ⟨n, rfl⟩ := Nat.exists_eq_add_of_lt positive
    exact Nat.ascFactorial_pos _ _
  exact product ▸ filled

/-! ## One choice -/

/-- What is left of a draw is enough for the choices left, the first of which is from `m`
numbers and each other from one more than the choice before it. -/
def Chunk.Covers (chunk : Chunk) (m : Nat) : Prop :=
  0 < chunk.choices → chunk.value < m.ascFactorial chunk.choices

theorem covers_start : Chunk.start.Covers 1 := fun _ => by decide

/-- A choice from what is left of a draw. -/
theorem choose_of_pos {chunk : Chunk} (left : 0 < chunk.choices) (m : Nat) (stream : KeyStream) :
    choose m chunk stream =
      if chunk.choices = 1 then (chunk.value, ⟨chunk.value, 0⟩, stream)
      else (chunk.value % m, ⟨chunk.value / m, chunk.choices - 1⟩, stream) := by
  simp only [choose, if_neg (Nat.ne_of_gt left)]

/-- Where nothing is left, a choice is the first one of a new draw. -/
theorem choose_of_zero {chunk : Chunk} (used : chunk.choices = 0) {m : Nat}
    (some : 0 < (batch m).2) (stream : KeyStream) :
    choose m chunk stream =
      choose m ⟨(below (batch m).1 stream).1, (batch m).2⟩ (below (batch m).1 stream).2 := by
  have fresh : 0 < (Chunk.mk (below (batch m).1 stream).1 (batch m).2).choices := some
  rw [choose_of_pos fresh]
  simp only [choose, if_pos used]

/-- From what is left of a draw: the choice is in range, and the rest is enough for the
choices behind it. -/
theorem choose_lt_of_pos {chunk : Chunk} {m : Nat} (positive : 0 < m) (covers : chunk.Covers m)
    (left : 0 < chunk.choices) (stream : KeyStream) :
    (choose m chunk stream).1 < m ∧ (choose m chunk stream).2.1.Covers (m + 1) := by
  have value := covers left
  rw [choose_of_pos left]
  by_cases last : chunk.choices = 1
  · rw [if_pos last]
    rw [last] at value
    refine ⟨?_, fun more => absurd more (Nat.lt_irrefl 0)⟩
    simpa [Nat.ascFactorial] using value
  · rw [if_neg last]
    refine ⟨Nat.mod_lt _ positive, fun _ => ?_⟩
    have ranges : m.ascFactorial chunk.choices =
        m * (m + 1).ascFactorial (chunk.choices - 1) := by
      obtain ⟨others, same⟩ := Nat.exists_eq_succ_of_ne_zero (Nat.ne_of_gt left)
      rw [same, Nat.succ_ascFactorial, Nat.succ_sub_one, Nat.ascFactorial_succ]
    rw [ranges] at value
    exact Nat.div_lt_of_lt_mul value

/-- **A choice is in range**, and what it leaves of the draw is enough for the choices
behind it. -/
theorem choose_lt {chunk : Chunk} {m : Nat} (positive : 0 < m) (fits : m < UInt32.size)
    (covers : chunk.Covers m) (stream : KeyStream) :
    (choose m chunk stream).1 < m ∧ (choose m chunk stream).2.1.Covers (m + 1) := by
  by_cases left : 0 < chunk.choices
  · exact choose_lt_of_pos positive covers left stream
  · obtain ⟨product, filled, small, some⟩ := batch_spec positive fits
    have fresh := below_lt filled small stream
    rw [choose_of_zero (Nat.eq_zero_of_not_pos left) some]
    refine choose_lt_of_pos positive (fun _ => ?_) some _
    rw [← product]
    exact fresh

/-! ## All exchanges -/

/-- Exchange two positions, either of which may be past the end. -/
def swap? (order : Array Nat) (i j : Nat) : Except IndexFault (Array Nat) :=
  if first : i < order.size then
    if second : j < order.size then .ok (order.swap i j) else .error ⟨order.size, j⟩
  else .error ⟨order.size, i⟩

/-- The exchange shuffle with every exchange checked. -/
def exchange? : Nat → Nat → Chunk → Array Nat → KeyStream →
    Except IndexFault (Array Nat × KeyStream)
  | 0, _, _, order, stream => .ok (order, stream)
  | count + 1, position, chunk, order, stream => do
      let (choice, chunk, stream) := choose (position + 1) chunk stream
      exchange? count (position + 1) chunk (← swap? order position choice) stream

theorem swap?_eq_ok {order : Array Nat} {i j : Nat} (first : i < order.size)
    (second : j < order.size) : swap? order i j = .ok (order.swapIfInBounds i j) := by
  simp [swap?, Array.swapIfInBounds, first, second]

/-- **No exchange is out of range**: the checked shuffle is the shuffle. -/
theorem exchange?_eq {count position : Nat} {chunk : Chunk} {order : Array Nat}
    (covers : chunk.Covers (position + 1)) (inside : position + count ≤ order.size)
    (small : order.size < UInt32.size) (stream : KeyStream) :
    exchange? count position chunk order stream =
      .ok (exchange count position chunk order stream) := by
  induction count generalizing position chunk order stream with
  | zero => rfl
  | succ count ih =>
      have positive : 0 < position + 1 := Nat.succ_pos position
      obtain ⟨choice, rest⟩ := choose_lt positive (by omega) covers stream
      have swapped : swap? order position (choose (position + 1) chunk stream).1 =
          .ok (order.swapIfInBounds position (choose (position + 1) chunk stream).1) :=
        swap?_eq_ok (by omega) (by omega)
      simp only [exchange?, exchange, swapped, bind, Except.bind]
      refine ih rest ?_ ?_ _
      · rw [Array.size_swapIfInBounds]
        omega
      · rw [Array.size_swapIfInBounds]
        exact small

/-- An order with every exchange checked. -/
def permutation? (n : Nat) (stream : KeyStream) : Except IndexFault (List Nat × KeyStream) :=
  (exchange? n 0 .start (Array.range n) stream).map fun final => (final.1.toList, final.2)

theorem permutation?_eq {n : Nat} (small : n < UInt32.size) (stream : KeyStream) :
    permutation? n stream = .ok (permutation n stream) := by
  have inside : 0 + n ≤ (Array.range n).size := by simp
  have fits : (Array.range n).size < UInt32.size := by simpa using small
  rw [permutation?, exchange?_eq covers_start inside fits]
  rfl

/-- The answers to questions asked one after the other, with every exchange checked. -/
def answers? : List Nat → KeyStream → Except IndexFault (List (List Nat))
  | [], _ => .ok []
  | n :: sizes, stream => do
      let (order, stream) ← permutation? n stream
      return order :: (← answers? sizes stream)

theorem answers?_eq {sizes : List Nat} (small : ∀ n ∈ sizes, n < UInt32.size)
    (stream : KeyStream) : answers? sizes stream = .ok (seeded.answers sizes stream) := by
  induction sizes generalizing stream with
  | nil => rfl
  | cons n rest ih =>
      have here := permutation?_eq (small n List.mem_cons_self) stream
      have smaller : ∀ k ∈ rest, k < UInt32.size :=
        fun k member => small k (List.mem_cons_of_mem n member)
      have later := ih smaller (permutation n stream).2
      simp only [answers?, here, later, bind, Except.bind]
      rfl

theorem answers_of_fair {σ : Type} {permuter : Permuter σ} (fair : permuter.Fair)
    (sizes : List Nat) (state : σ) :
    List.Forall₂ (fun n order => order.Perm (List.range n)) sizes
      (permuter.answers sizes state) := by
  induction sizes generalizing state with
  | nil => exact .nil
  | cons n rest ih => exact .cons (fair n state) (ih _)

/-- A rearrangement of `0 .. n-1` has each of these numbers once. -/
theorem once_of_perm {n : Nat} {order : List Nat} (same : order.Perm (List.range n)) :
    order.length = n ∧ ∀ i < n, order.count i = 1 := by
  refine ⟨by simpa using same.length_eq, ?_⟩
  intro i inside
  rw [same.count_eq i]
  exact List.count_eq_one_of_mem List.nodup_range (List.mem_range.2 inside)

/-- **A seeded shuffle loses nothing, doubles nothing and does not fail.**  Whatever words a
stream has and however many of them were drawn before -- so in particular for every seed --
questions for fewer than 2^32 - 1 things, asked one after the other, are answered with every
exchange in range, and each answer has every index once.  A shuffle that asks from there on
hands on a rearrangement of what it received. -/
theorem seeded_rearranges {sizes : List Nat} (small : ∀ n ∈ sizes, n < UInt32.size - 1)
    (stream : KeyStream) :
    answers? sizes stream = .ok (seeded.answers sizes stream) ∧
    List.Forall₂ (fun n order => order.Perm (List.range n) ∧ order.length = n ∧
      ∀ i < n, order.count i = 1) sizes (seeded.answers sizes stream) ∧
    ∀ (α : Type) (family : α → Option Family) (records : List α),
      records.length < UInt32.size - 1 →
        permutation? records.length stream = .ok (seeded.draw records.length stream) ∧
        ∃ here picked, Stage.shuffle.apply family seeded (some records) stream = .ok here ∧
          here.value = some picked ∧ picked.Perm records := by
  have fits {n : Nat} (inside : n < UInt32.size - 1) : n < UInt32.size := by omega
  refine ⟨answers?_eq (fun n member => fits (small n member)) stream, ?_, ?_⟩
  · refine (answers_of_fair seeded_fair sizes stream).imp ?_
    intro n order same
    exact ⟨same, once_of_perm same⟩
  · intro α family records inside
    have plain : Stage.shuffle.Fair := trivial
    exact ⟨permutation?_eq (fits inside) stream,
      Stage.apply_reorder family seeded_fair plain rfl records stream⟩

/-- Two questions to a seed, and a shuffle that is the first to ask it. -/
theorem seeded_rearranges_sockets :
    (∀ n ∈ [2, 5], n < UInt32.size - 1) ∧ Collection.sockets.length < UInt32.size - 1 ∧
    answers? [2, 5] (.ofSeed 42) = .ok (seeded.answers [2, 5] (.ofSeed 42)) ∧
    List.Forall₂ (fun n order => order.Perm (List.range n) ∧ order.length = n ∧
      ∀ i < n, order.count i = 1) [2, 5] (seeded.answers [2, 5] (.ofSeed 42)) ∧
    ∃ here picked, Stage.shuffle.apply (Record.family? .tcp) seeded (some Collection.sockets)
        (.ofSeed 42) = .ok here ∧
      here.value = some picked ∧ picked.Perm Collection.sockets := by
  have small : ∀ n ∈ [2, 5], n < UInt32.size - 1 := by decide
  have short : Collection.sockets.length < UInt32.size - 1 := by decide
  obtain ⟨checked, answered, shuffled⟩ := seeded_rearranges small (.ofSeed 42)
  exact ⟨small, short, checked, answered,
    (shuffled _ (Record.family? .tcp) Collection.sockets short).2⟩

example : seeded.answers [2, 5] (.ofSeed 42) = [[1, 0], [0, 3, 1, 4, 2]] := by decide +kernel

end DialSelect.Permuter
