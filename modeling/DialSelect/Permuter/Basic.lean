/-
# DialSelect.Permuter.Basic -- sources of orders

A permuter is asked for an order of `n` things and answers with a list of indices;
what it remembers between two questions is its state.  Nothing is assumed of the
answer here: the laws that need a permutation say so (`Permuter.Fair`).

`Permuter.seeded` answers from the key stream of a seed, by the exchange shuffle:
for each position from the front, an exchange with a position up to it.  Several
of these choices are made with one draw: a draw below the product of the next
ranges is taken apart digit by digit.
-/
import DialSelect.Permuter.KeyStream

namespace DialSelect

set_option autoImplicit false

/-- A source of orders with a state. -/
structure Permuter (σ : Type) where
  draw : Nat → σ → List Nat × σ

namespace Permuter

/-- Every answer is a rearrangement of the indices asked for. -/
def Fair {σ : Type} (permuter : Permuter σ) : Prop :=
  ∀ n state, (permuter.draw n state).1.Perm (List.range n)

/-- The permuter that leaves everything in place. -/
def still : Permuter Unit where
  draw n state := (List.range n, state)

theorem still_fair : still.Fair := fun _ _ => List.Perm.refl _

/-! ## Bounded draws -/

/-- A number below `bound` from one draw, or from two where the first alone would
favour small numbers. -/
def below (bound : Nat) (stream : KeyStream) : Nat × KeyStream :=
  let (first, stream) := stream.next
  let product := first.toNat * bound
  let high := product / UInt32.size
  let low := product % UInt32.size
  if UInt32.size - bound < low then
    let (second, stream) := stream.next
    let carry := if UInt32.size ≤ low + second.toNat * bound / UInt32.size then 1 else 0
    (high + carry, stream)
  else (high, stream)

/-- Extend a product of consecutive ranges, the next of which is `range`, while it
stays below 2^32.  A product of two or more numbers above one that stays below
2^32 has fewer than thirty-two factors, so that fuel suffices. -/
def extendBatch : Nat → Nat → Nat → Nat → Nat × Nat
  | 0, product, _, count => (product, count)
  | fuel + 1, product, range, count =>
      if product * range < UInt32.size then
        extendBatch fuel (product * range) (range + 1) (count + 1)
      else (product, count)

/-- The longest product `m * (m + 1) * ...` below 2^32, and its number of factors. -/
def batch (m : Nat) : Nat × Nat :=
  extendBatch 32 m (m + 1) 1

/-- A draw that several choices are taken from: what is left of it, and for how
many choices. -/
structure Chunk where
  value : Nat
  choices : Nat
  deriving DecidableEq, Repr

/-- Before the first draw there is one choice, that of the first position, and it
is forced. -/
def Chunk.start : Chunk := ⟨0, 1⟩

/-- Choose a number below `m`: the last choice takes all that is left of the draw. -/
def choose (m : Nat) (chunk : Chunk) (stream : KeyStream) : Nat × Chunk × KeyStream :=
  let (chunk, stream) :=
    if chunk.choices = 0 then
      let (bound, count) := batch m
      let (value, stream) := below bound stream
      (⟨value, count⟩, stream)
    else (chunk, stream)
  if chunk.choices = 1 then (chunk.value, ⟨chunk.value, 0⟩, stream)
  else (chunk.value % m, ⟨chunk.value / m, chunk.choices - 1⟩, stream)

/-- Exchange each of the `count` positions from `position` on with a chosen one. -/
def exchange : Nat → Nat → Chunk → Array Nat → KeyStream → Array Nat × KeyStream
  | 0, _, _, order, stream => (order, stream)
  | count + 1, position, chunk, order, stream =>
      let (choice, chunk, stream) := choose (position + 1) chunk stream
      exchange count (position + 1) chunk (order.swapIfInBounds position choice) stream

def permutation (n : Nat) (stream : KeyStream) : List Nat × KeyStream :=
  let (order, stream) := exchange n 0 .start (Array.range n) stream
  (order.toList, stream)

def seeded : Permuter KeyStream where
  draw := permutation

/-! ## Exchanging loses nothing -/

theorem exchange_perm (count position : Nat) (chunk : Chunk) (order : Array Nat)
    (stream : KeyStream) :
    (exchange count position chunk order stream).1.Perm order := by
  induction count generalizing position chunk order stream with
  | zero => exact Array.Perm.refl order
  | succ count ih =>
      simp only [exchange]
      refine (ih _ _ _ _).trans ?_
      unfold Array.swapIfInBounds
      split
      · split
        · exact Array.swap_perm _ _
        · exact Array.Perm.refl order
      · exact Array.Perm.refl order

theorem seeded_fair : seeded.Fair := by
  intro n stream
  have kept := (exchange_perm n 0 .start (Array.range n) stream).toList
  simpa [seeded, permutation] using kept

end Permuter

end DialSelect
