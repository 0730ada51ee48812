/-
# DialSelect.Numeral -- whole numbers as text

Decimal and hexadecimal digits, with two readers of different temper:

* `digits?` reads a run of digits of a base and knows no limit, no sign and no
  leading-zero rule; the address grammars bound what it returns;
* `readCount` reads a count or a seed as a person writes it, with one optional
  plus sign, and says what is wrong with a text it refuses.  Of two faults the
  leftmost wins: a character that is no digit is reported even where the digits
  before it are about to leave the range, but not after they have left it.

Printing is core's: `Nat.toDigits`.
-/

namespace DialSelect.Numeral

set_option autoImplicit false

/-- The decimal digits of `n`, without leading zeros. -/
def decimal (n : Nat) : List Char :=
  Nat.toDigits 10 n

/-- The lower-case hexadecimal digits of `n`, without leading zeros. -/
def hexadecimal (n : Nat) : List Char :=
  Nat.toDigits 16 n

def decimalDigit? (c : Char) : Option Nat :=
  if '0' ≤ c ∧ c ≤ '9' then some (c.toNat - '0'.toNat) else none

/-- The value of a hexadecimal digit, of either case. -/
def hexDigit? (c : Char) : Option Nat :=
  if '0' ≤ c ∧ c ≤ '9' then some (c.toNat - '0'.toNat)
  else if 'a' ≤ c ∧ c ≤ 'f' then some (c.toNat - 'a'.toNat + 10)
  else if 'A' ≤ c ∧ c ≤ 'F' then some (c.toNat - 'A'.toNat + 10)
  else none

/-- The value of a run of digits that continues a number with value `value`. -/
def digitsFrom? (digit? : Char → Option Nat) (base value : Nat) : List Char → Option Nat
  | [] => some value
  | c :: rest =>
      match digit? c with
      | none => none
      | some d => digitsFrom? digit? base (value * base + d) rest

/-- The value of a non-empty run of digits. -/
def digits? (digit? : Char → Option Nat) (base : Nat) : List Char → Option Nat
  | [] => none
  | text => digitsFrom? digit? base 0 text

/-- A non-empty run of decimal digits with a value below `bound`; leading zeros
are allowed. -/
def decimalBelow? (bound : Nat) (text : List Char) : Option Nat :=
  (digits? decimalDigit? 10 text).filter (· < bound)

/-! ## Counts -/

inductive CountFault where
  | empty
  | notADigit
  | tooLarge
  deriving DecidableEq, Repr

def CountFault.message : CountFault → String
  | .empty => "cannot parse integer from empty string"
  | .notADigit => "invalid digit found in string"
  | .tooLarge => "number too large to fit in target type"

/-- Counts and seeds are 64 bits wide. -/
def countBound : Nat := UInt64.size

/-- Read digits after a number with value `value`, stopping at the first fault. -/
def readDigits (value : Nat) : List Char → Except CountFault Nat
  | [] => .ok value
  | c :: rest =>
      match decimalDigit? c with
      | none => .error .notADigit
      | some d =>
          if value * 10 + d < countBound then readDigits (value * 10 + d) rest
          else .error .tooLarge

/-- Read a count: an optional plus sign and at least one decimal digit, with a
value below `countBound`. -/
def readCount : List Char → Except CountFault Nat
  | [] => .error .empty
  | ['+'] => .error .notADigit
  | '+' :: rest => readDigits 0 rest
  | text => readDigits 0 text

end DialSelect.Numeral
