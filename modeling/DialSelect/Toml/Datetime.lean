/-
# DialSelect.Toml.Datetime -- dates and times of day

A date, a time of day, or both with an offset, in the notation of fixed places:
`2020-02-29`, `10:00:00.5`, `2020-02-29T10:00:00+01:00`.  Seconds may be missing,
and a fraction needs them.  Only a date with a time may have an offset.

The numbers have to be those of a calendar and of a clock, a leap second among
them (`isDate`, `isTime`, `isOffset`).  No setting is a date, so the value itself
is not kept.
-/
import DialSelect.Numeral
import DialSelect.Text.Fields

namespace DialSelect.Toml

set_option autoImplicit false

/-- The shape of a text: every digit is a zero. -/
def digitShape (text : List Char) : List Char :=
  text.map fun c => if c.isDigit then '0' else c

/-- The number whose `count` digits stand behind the first `start` characters; zero
where the text has ended. -/
def numberAt (text : List Char) (start count : Nat) : Nat :=
  (Numeral.digits? Numeral.decimalDigit? 10 ((text.drop start).take count)).getD 0

def isLeapYear (year : Nat) : Bool :=
  year % 4 = 0 && (year % 100 ≠ 0 || year % 400 = 0)

def daysIn (year month : Nat) : Nat :=
  if month = 2 then if isLeapYear year then 29 else 28
  else if month = 4 ∨ month = 6 ∨ month = 9 ∨ month = 11 then 30
  else 31

def isDate (text : List Char) : Bool :=
  let year := numberAt text 0 4
  let month := numberAt text 5 2
  let day := numberAt text 8 2
  digitShape text = "0000-00-00".toList &&
    (1 ≤ month && month ≤ 12) && (1 ≤ day && day ≤ daysIn year month)

/-- Whether a text is a time of day, perhaps with a fraction of its seconds. -/
def isTime (text : List Char) : Bool :=
  let clock := text.takeWhile (· ≠ '.')
  let shape := digitShape clock
  let inRange := numberAt clock 0 2 ≤ 23 && numberAt clock 3 2 ≤ 59 && numberAt clock 6 2 ≤ 60
  match text.dropWhile (· ≠ '.') with
  | [] => (shape = "00:00".toList || shape = "00:00:00".toList) && inRange
  | _ :: digits =>
      shape = "00:00:00".toList && inRange && !digits.isEmpty && digits.all Char.isDigit

def isOffset (text : List Char) : Bool :=
  let shape := digitShape text
  (shape = "+00:00".toList || shape = "-00:00".toList) &&
    (numberAt text 1 2 ≤ 23 && numberAt text 4 2 ≤ 59)

/-- Whether a text is a time of day, perhaps with an offset behind it. -/
def isOffsetTime (text : List Char) : Bool :=
  let time := text.take (text.length - 6)
  isTime text || (isOffset (text.drop (text.length - 6)) && isTime time) ||
    match text.getLast? with
    | some 'Z' | some 'z' => isTime text.dropLast
    | _ => false

/-- Whether a text is a date, a time of day or both. -/
def isDatetime (text : List Char) : Bool :=
  isDate text || isTime text ||
    (isDate (text.take 10) && isOffsetTime (text.drop 11) &&
      match text[10]? with
      | some 'T' | some 't' | some ' ' => true
      | _ => false)

end DialSelect.Toml
