/-
# DialSelect.Permuter.KeyStream -- a stream of random words from a seed

The words are those of the twelve-round ChaCha stream cipher under a key expanded
from the seed.  The cipher's state is four rows of four words; a round mixes the
rows lane by lane, and the second half of a double round mixes them after turning
row `i` by `i` lanes, so that the lanes are the diagonals.

`next` draws one word.  A block of sixteen words is computed when the words of
the block before are used up.
-/

namespace DialSelect.Permuter

set_option autoImplicit false

/-- Four words, one for each lane. -/
structure Row where
  w0 : UInt32
  w1 : UInt32
  w2 : UInt32
  w3 : UInt32
  deriving DecidableEq, Repr

namespace Row

def zipWith (f : UInt32 → UInt32 → UInt32) (x y : Row) : Row :=
  ⟨f x.w0 y.w0, f x.w1 y.w1, f x.w2 y.w2, f x.w3 y.w3⟩

def map (f : UInt32 → UInt32) (x : Row) : Row :=
  ⟨f x.w0, f x.w1, f x.w2, f x.w3⟩

def turn (x : Row) : Row :=
  ⟨x.w1, x.w2, x.w3, x.w0⟩

def toList (x : Row) : List UInt32 := [x.w0, x.w1, x.w2, x.w3]

end Row

structure Block where
  r0 : Row
  r1 : Row
  r2 : Row
  r3 : Row
  deriving DecidableEq, Repr

/-- Rotate a word to the left by `count` bits, `0 < count < 32`. -/
def rotateLeft (count x : UInt32) : UInt32 :=
  x <<< count ||| x >>> (32 - count)

namespace Block

/-- Mix the four rows lane by lane. -/
def mix (s : Block) : Block :=
  let a := s.r0.zipWith (· + ·) s.r1
  let d := (s.r3.zipWith (· ^^^ ·) a).map (rotateLeft 16)
  let c := s.r2.zipWith (· + ·) d
  let b := (s.r1.zipWith (· ^^^ ·) c).map (rotateLeft 12)
  let a := a.zipWith (· + ·) b
  let d := (d.zipWith (· ^^^ ·) a).map (rotateLeft 8)
  let c := c.zipWith (· + ·) d
  let b := (b.zipWith (· ^^^ ·) c).map (rotateLeft 7)
  ⟨a, b, c, d⟩

/-- Bring the diagonals into the lanes. -/
def slant (s : Block) : Block :=
  ⟨s.r0, s.r1.turn, s.r2.turn.turn, s.r3.turn.turn.turn⟩

def unslant (s : Block) : Block :=
  ⟨s.r0, s.r1.turn.turn.turn, s.r2.turn.turn, s.r3.turn⟩

/-- A round over the lanes and a round over the diagonals. -/
def doubleRound (s : Block) : Block :=
  s.mix.slant.mix.unslant

def rounds : Nat → Block → Block
  | 0, s => s
  | count + 1, s => rounds count s.doubleRound

/-- The words of the block that follows from an initial state: twelve rounds, then
the initial state added word by word. -/
def words (s : Block) : List UInt32 :=
  let mixed := rounds 6 s
  (mixed.r0.zipWith (· + ·) s.r0).toList ++ (mixed.r1.zipWith (· + ·) s.r1).toList ++
    (mixed.r2.zipWith (· + ·) s.r2).toList ++ (mixed.r3.zipWith (· + ·) s.r3).toList

end Block

/-! ## The key -/

/-- The step of the linear congruence that expands a seed. -/
def seedStep (state : UInt64) : UInt64 :=
  state * 6364136223846793005 + 11634580027462260723

/-- The key word of a state: the upper bits, folded and rotated by the topmost. -/
def seedWord (state : UInt64) : UInt32 :=
  let folded := (((state >>> 18) ^^^ state) >>> 27).toUInt32
  let turn := (state >>> 59).toUInt32
  if turn = 0 then folded else folded >>> turn ||| folded <<< (32 - turn)

/-- Key words from a state, each from the step after it. -/
def keyWords : Nat → UInt64 → List UInt32
  | 0, _ => []
  | count + 1, state => seedWord (seedStep state) :: keyWords count (seedStep state)

/-! ## The stream -/

/-- A position in the stream of a key: the two rows of the key, the number of the
next block and the words of the current block not drawn yet. -/
structure KeyStream where
  key0 : Row
  key1 : Row
  block : UInt64
  pending : List UInt32
  deriving DecidableEq, Repr

namespace KeyStream

/-- The start of the stream of a seed. -/
def ofSeed (seed : Nat) : KeyStream :=
  match keyWords 8 (UInt64.ofNat seed) with
  | [a, b, c, d, e, f, g, h] => ⟨⟨a, b, c, d⟩, ⟨e, f, g, h⟩, 0, []⟩
  | _ => ⟨⟨0, 0, 0, 0⟩, ⟨0, 0, 0, 0⟩, 0, []⟩

def initial (stream : KeyStream) : Block :=
  ⟨⟨0x61707865, 0x3320646E, 0x79622D32, 0x6B206574⟩, stream.key0, stream.key1,
    ⟨stream.block.toUInt32, (stream.block >>> 32).toUInt32, 0, 0⟩⟩

def next (stream : KeyStream) : UInt32 × KeyStream :=
  match stream.pending with
  | word :: rest => (word, { stream with pending := rest })
  | [] =>
      match stream.initial.words with
      | word :: rest => (word, { stream with block := stream.block + 1, pending := rest })
      | [] => (0, stream)

end KeyStream

end DialSelect.Permuter
