/-
# DialSelect.Toml.Number -- unquoted numbers

Whole numbers are decimal with an optional sign, or hexadecimal, octal or binary
without one; a float has a fraction, an exponent or both.  A decimal does not
begin with a zero in front of another digit.

Underscores may separate digits.  What is checked is the neighbourhood of each of
them (`joinParts?`), and otherwise a whole number is evaluated only where its
value is wanted.  So two kinds of text pass that name no number: a base without
digits, and a decimal with something else, but no space, behind its first
underscore.  They are values of the kind `numeral`, which no setting has.

Of a float only the notation is checked.
-/
import DialSelect.Numeral
import DialSelect.Text.Fields
import DialSelect.Toml.Value

namespace DialSelect.Toml

set_option autoImplicit false

def octalDigit? (c : Char) : Option Nat :=
  (Numeral.decimalDigit? c).filter (· < 8)

def binaryDigit? (c : Char) : Option Nat :=
  (Numeral.decimalDigit? c).filter (· < 2)

def isAnyDigit (c : Char) : Bool :=
  (Numeral.hexDigit? c).isSome

def splitSign : List Char → Bool × List Char
  | '+' :: rest => (false, rest)
  | '-' :: rest => (true, rest)
  | text => (false, text)

/-- A number without its underscores.  A digit has to stand on either side of each of
them. -/
def joinParts? (isDigit : Char → Bool) (text : List Char) : Option (List Char) :=
  let parts := Text.fields '_' text
  let behind := parts.tail.all fun part => part.head?.any isDigit
  let before := parts.dropLast.all fun part => part.getLast?.any isDigit
  if behind && before then some parts.flatten else none

/-! ## Whole numbers -/

/-- The value of a whole number, if the text names one. -/
def wholeValue : Option Int → Value
  | some n => .integer n
  | none => .other .numeral

/-- Read the digits behind the letter of a base. -/
def radixed? (digit? : Char → Option Nat) (base : Nat) (run : List Char) : Option Value :=
  if run.all fun c => c = '_' || (digit? c).isSome then
    (joinParts? isAnyDigit run).map fun digits =>
      wholeValue ((Numeral.digits? digit? base digits).map Int.ofNat)
  else none

/-- The decimal number that a text with an optional sign names. -/
def decimal? (text : List Char) : Option Int :=
  let (negative, digits) := splitSign text
  (Numeral.digits? Numeral.decimalDigit? 10 digits).map fun n =>
    if negative then -(n : Int) else (n : Int)

/-! ## Floats -/

def isRunChar (c : Char) : Bool :=
  c.isDigit || c = '_'

/-- The number of digits in the run that a text begins with. -/
def runDigits (text : List Char) : Nat :=
  (text.takeWhile isRunChar).countP Char.isDigit

/-- The text behind a run that has a digit. -/
def afterRun? (text : List Char) : Option (List Char) :=
  if runDigits text = 0 then none else some (text.dropWhile isRunChar)

/-- The text behind a fraction, if there is one. -/
def afterFraction? : List Char → Option (List Char)
  | '.' :: rest => afterRun? rest
  | text => some text

/-- The text behind an exponent, if there is one. -/
def afterExponent? : List Char → Option (List Char)
  | 'e' :: rest | 'E' :: rest => afterRun? (splitSign rest).2
  | text => some text

def hasLeadingZero (text : List Char) : Bool :=
  text.head? = some '0' && 1 < runDigits text

def isFloat (text : List Char) : Bool :=
  !hasLeadingZero text &&
    (do afterExponent? (← afterFraction? (← afterRun? text))) = some []

/-! ## Numbers -/

/-- A character that only a float has. -/
def isFloatMark (c : Char) : Bool :=
  c = '.' || c = 'e' || c = 'E'

/-- Read a number that does not begin with the letter of a base.  `text` is `run`
without its sign. -/
def unradixed? (run text : List Char) : Option Value :=
  match text.dropWhile Char.isDigit with
  | [] => if hasLeadingZero text then none else (decimal? run).map .integer
  | c :: rest =>
      if (c :: rest).contains ' ' then none
      else if (c :: rest).any isFloatMark then
        if isFloat text then (joinParts? Char.isDigit run).map fun _ => .other .float else none
      else if c = '_' ∧ text.head? ≠ some '0' then
        (joinParts? isAnyDigit run).map fun digits => wholeValue (decimal? digits)
      else none

def number? (run : List Char) : Option Value :=
  match run with
  | '0' :: 'x' :: digits => radixed? Numeral.hexDigit? 16 digits
  | '0' :: 'o' :: digits => radixed? octalDigit? 8 digits
  | '0' :: 'b' :: digits => radixed? binaryDigit? 2 digits
  | _ =>
      let text := (splitSign run).2
      if text = "inf".toList ∨ text = "nan".toList then some (.other .float)
      else unradixed? run text

end DialSelect.Toml
