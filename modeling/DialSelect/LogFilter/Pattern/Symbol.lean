/-
# DialSelect.LogFilter.Pattern.Symbol -- the symbols of a pattern

A pattern describes texts.  It is read for what is wrong with it; nothing is
matched.  Its smallest parts are symbols: a character that stands for itself, a
character behind a backslash, or the point that stands for any character.

Which symbols may stand in a pattern depends on the mode, which the pattern can
change as it goes:

* in a wide pattern characters are those of Unicode.  No table of Unicode is at
  hand that says which characters differ only in their case, and which are digits,
  white space or parts of words.  So a caseless wide pattern has no letters at all,
  and `\d`, `\s` and `\w` stand in no wide pattern;
* in a pattern that is not wide they are those of ASCII.  What would match a part of
  a longer character is refused: the point, what is negated, and a byte above ASCII.
-/
import DialSelect.Numeral
import DialSelect.Text.Blank

namespace DialSelect.Pattern

set_option autoImplicit false

structure Mode where
  /-- Upper and lower case are the same. -/
  caseless : Bool
  /-- Characters are those of Unicode. -/
  wide : Bool
  /-- White space and comments are passed over. -/
  spaced : Bool
  deriving DecidableEq, Repr

/-- The mode that a pattern begins in. -/
def Mode.standard : Mode := ⟨false, true, false⟩

inductive Symbol where
  /-- A character; `byte` says that it is given as a byte. -/
  | letter (c : Char) (byte : Bool)
  /-- Any character. -/
  | any
  /-- A place in the text; `word` says that it is the begin or the end of a word, or is
  not one. -/
  | place (word : Bool)
  /-- A kind of characters, or all others. -/
  | kind (negated : Bool)
  deriving DecidableEq, Repr

/-! ## What may stand where -/

/-- Whether a symbol may stand in a pattern, outside its classes. -/
def Mode.admits (mode : Mode) : Symbol → Bool
  | .letter c byte => if mode.wide then !mode.caseless else !byte || c.toNat < 0x80
  | .any => mode.wide
  | .place _ => true
  | .kind negated => !mode.wide && !negated

def Mode.admitsInClass (mode : Mode) : Symbol → Bool
  | .letter c _ => if mode.wide then !mode.caseless else c.toNat < 0x80
  | .kind negated => !mode.wide && !negated
  | _ => false

/-! ## White space and comments -/

/-- The text behind white space and comments; `comment` says whether a comment is
open. -/
def dropGap (comment : Bool) : List Char → List Char
  | [] => []
  | c :: rest =>
      if comment then dropGap (c ≠ '\n') rest
      else if Text.isBlank c then dropGap false rest
      else if c = '#' then dropGap true rest
      else c :: rest

/-- The text behind what the mode passes over. -/
def Mode.skip (mode : Mode) (text : List Char) : List Char :=
  if mode.spaced then dropGap false text else text

/-! ## Reading -/

/-- Read that many hexadecimal digits behind a number. -/
def hexadecimal? (mode : Mode) : Nat → Nat → List Char → Option (Nat × List Char)
  | 0, value, text => some (value, text)
  | count + 1, value, text =>
      match mode.skip text with
      | [] => none
      | c :: rest => do
          let digit ← Numeral.hexDigit? c
          hexadecimal? mode count (16 * value + digit) rest

/-- Read a character by its number, of that many hexadecimal digits; of two digits it
is a byte. -/
def numbered? (mode : Mode) (count : Nat) (text : List Char) : Option (Symbol × List Char) := do
  let (code, rest) ← hexadecimal? mode count 0 text
  if code.isValidChar then return (.letter (Char.ofNat code) (count = 2), rest) else none

/-- Read what stands behind a backslash.  Letters and digits there have a meaning or
none; every other character of ASCII stands for itself. -/
def escaped? (mode : Mode) : List Char → Option (Symbol × List Char)
  | [] => none
  | c :: rest =>
      match c with
      | 'x' => numbered? mode 2 rest
      | 'u' => numbered? mode 4 rest
      | 'U' => numbered? mode 8 rest
      | 'd' | 's' | 'w' => some (.kind false, rest)
      | 'D' | 'S' | 'W' => some (.kind true, rest)
      | 'A' | 'z' => some (.place false, rest)
      | 'b' | 'B' | '<' | '>' => some (.place true, rest)
      | 'a' => some (.letter '\x07' false, rest)
      | 'f' => some (.letter '\x0C' false, rest)
      | 't' => some (.letter '\t' false, rest)
      | 'n' => some (.letter '\n' false, rest)
      | 'r' => some (.letter '\r' false, rest)
      | 'v' => some (.letter '\x0B' false, rest)
      | _ => if c.toNat < 0x80 && !c.isAlphanum then some (.letter c false, rest) else none

def symbol? (mode : Mode) : List Char → Option (Symbol × List Char)
  | '\\' :: rest => escaped? mode rest
  | '.' :: rest => some (.any, rest)
  | '^' :: rest | '$' :: rest => some (.place false, rest)
  | c :: rest => some (.letter c false, rest)
  | [] => none

/-- Read a symbol of a class, where only the backslash is special. -/
def classSymbol? (mode : Mode) : List Char → Option (Symbol × List Char)
  | '\\' :: rest => escaped? mode rest
  | c :: rest => some (.letter c false, rest)
  | [] => none

end DialSelect.Pattern
