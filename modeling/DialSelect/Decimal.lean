/-
# DialSelect.Decimal -- the fewest decimal digits that name a double

A finite double stands for all reals that round to it.  Its text has the fewest
significant digits of any decimal in that interval, and of those decimals it is
the nearest to the double, of two equally near ones the even one.  It is written
positionally while its point stands near its digits, and otherwise with a signed
exponent.

All of it is exact arithmetic on naturals: the double is `m * 2^q`, a decimal is
`d * 10^e`, and two such numbers are compared by multiplying across.
-/
import DialSelect.Numeral

namespace DialSelect.Decimal

set_option autoImplicit false

def two (n : Nat) : Nat :=
  Nat.pow 2 n

def ten (n : Nat) : Nat :=
  Nat.pow 10 n

/-- The magnitude of a finite double, `m * 2^q`.  `narrow` says that the gap to the
double below is half the gap to the double above. -/
structure Magnitude where
  m : Nat
  q : Int
  narrow : Bool
  deriving DecidableEq, Repr

def Magnitude.ofBits (bits : Nat) : Magnitude :=
  let fraction := bits % two 52
  let exponent : Nat := bits / two 52 % two 11
  if exponent = 0 then ⟨fraction, -1074, false⟩
  else ⟨two 52 + fraction, (exponent : Int) - 1075, fraction = 0 && 1 < exponent⟩

/-- Whether `d * 10^e` is less than `n * 2^j`. -/
def isLess (d : Nat) (e : Int) (n : Nat) (j : Int) : Bool :=
  d * ten e.toNat * two (-j).toNat < n * two j.toNat * ten (-e).toNat

/-- Whether `n * 2^j` is less than `d * 10^e`. -/
def isGreater (d : Nat) (e : Int) (n : Nat) (j : Int) : Bool :=
  n * two j.toNat * ten (-e).toNat < d * ten e.toNat * two (-j).toNat

/-- Whether `d * 10^e` is one of the reals that round to `x`: those nearer to it
than to its neighbours, the two midpoints included when `m` is even. -/
def Magnitude.covers (x : Magnitude) (d : Nat) (e : Int) : Bool :=
  let bottom := 4 * x.m - (if x.narrow then 1 else 2)
  let top := 4 * x.m + 2
  if x.m % 2 = 0 then !isLess d e bottom (x.q - 2) && !isGreater d e top (x.q - 2)
  else isGreater d e bottom (x.q - 2) && isLess d e top (x.q - 2)

/-- The multiple of `10^e` that is at most `x`, in units of `10^e`. -/
def Magnitude.gridFloor (x : Magnitude) (e : Int) : Nat :=
  (x.m * two x.q.toNat * ten (-e).toNat) / (ten e.toNat * two (-x.q).toNat)

/-- The decimal on the grid `10^e` that names `x`, if one of its two neighbours
there does. -/
def Magnitude.onGrid? (x : Magnitude) (e : Int) : Option (Nat × Int) :=
  let down := x.gridFloor e
  let up := down + 1
  match x.covers down e, x.covers up e with
  | true, true =>
      if isGreater (down + up) e (2 * x.m) x.q then some (down, e)
      else if isLess (down + up) e (2 * x.m) x.q then some (up, e)
      else some (if down % 2 = 0 then down else up, e)
  | true, false => some (down, e)
  | false, true => some (up, e)
  | false, false => none

/-- The first grid with a name for `x`, from `10^e` on to finer ones. -/
def Magnitude.search (x : Magnitude) : Nat → Int → Option (Nat × Int)
  | 0, _ => none
  | fuel + 1, e =>
      match x.onGrid? e with
      | some found => some found
      | none => x.search fuel (e - 1)

/-- The number of decimal digits before the point of an upper bound of `x`. -/
def Magnitude.scale (x : Magnitude) : Int :=
  let bitLength := (Nat.log2 x.m : Int) + 1 + x.q
  if 0 ≤ bitLength then bitLength * 31 / 100 + 1 else bitLength * 30 / 100 + 1

/-- The decimal that names `x`.  The search starts on a grid above `x` and ends
within twenty digits below it; seventeen suffice. -/
def Magnitude.shortest (x : Magnitude) : Nat × Int :=
  (x.search 48 x.scale).getD (x.gridFloor 0, 0)

/-- A whole number with its sign, also if it is positive. -/
def signed (n : Int) : List Char :=
  (if n < 0 then '-' else '+') :: Numeral.decimal n.natAbs

/-- Lay out `d * 10^e`.  With `point` digits before the point, it is positional for
`-5 < point <= 16` and has a signed exponent otherwise; a positional text has at
least one digit on either side of its point. -/
def layout (d : Nat) (e : Int) : List Char :=
  let digits := Numeral.decimal d
  let point : Int := digits.length + e
  if 0 ≤ e ∧ point ≤ 16 then digits ++ List.replicate e.toNat '0' ++ ['.', '0']
  else if 0 < point ∧ point ≤ 16 then
    digits.take point.toNat ++ '.' :: digits.drop point.toNat
  else if -5 < point ∧ point ≤ 0 then
    '0' :: '.' :: (List.replicate (-point).toNat '0' ++ digits)
  else
    let mantissa := if digits.length = 1 then digits else digits.take 1 ++ '.' :: digits.drop 1
    mantissa ++ 'e' :: signed (point - 1)

def print (x : Float) : List Char :=
  let bits := x.toBits.toNat
  let sign := if two 63 ≤ bits then ['-'] else []
  let magnitude := Magnitude.ofBits bits
  if magnitude.m = 0 then sign ++ ['0', '.', '0']
  else
    let found := magnitude.shortest
    sign ++ layout found.1 found.2

end DialSelect.Decimal
