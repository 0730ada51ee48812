/-
# DialSelect.LogFilter.Pattern.Class -- the classes of a pattern

A class stands in brackets and describes one character.  Its items are characters,
ranges of them, named classes and classes in brackets; between them may stand
`&&`, `--` and `~~`, which bind to the left and may have nothing on either side.

Of a class only its nesting is kept: how deep its parts stand in one another.  A
single item counts by itself, and several make one level more.
-/
import DialSelect.LogFilter.Pattern.Symbol

namespace DialSelect.Pattern

set_option autoImplicit false

/-- The nesting of several parts side by side; a single one stands for itself. -/
def nesting : List Nat → Nat
  | [] => 0
  | [part] => part
  | parts => 1 + parts.foldl max 0

/-- The nesting of what has been read of a class: the operation so far, if there is
one, and the items since. -/
def operation (left : Option Nat) (items : List Nat) : Nat :=
  match left with
  | none => nesting items
  | some depth => 1 + max depth (nesting items)

def classNames : List String :=
  ["alnum", "alpha", "ascii", "blank", "cntrl", "digit", "graph", "lower", "print", "punct",
    "space", "upper", "word", "xdigit"]

/-- Read a named class behind its bracket: whether it is negated, and the text behind
it. -/
def namedClass? (text : List Char) : Option (Bool × List Char) :=
  let (negated, named) :=
    match text with
    | ':' :: '^' :: named => (true, named)
    | ':' :: named => (false, named)
    | _ => (false, [])
  match named.dropWhile (· ≠ ':') with
  | ':' :: ']' :: rest =>
      if classNames.contains (String.ofList (named.takeWhile (· ≠ ':'))) then
        some (negated, rest)
      else none
  | _ => none

def Mode.admitsNamed (mode : Mode) (negated : Bool) : Bool :=
  if mode.wide then !mode.caseless else !negated

/-- Read a character, a kind of characters or a range.  A hyphen makes no range if
another one or the end of the class stands behind it. -/
def range? (mode : Mode) (text : List Char) : Option (List Char) := do
  let (first, rest) ← classSymbol? mode text
  if mode.admitsInClass first then
    match mode.skip rest with
    | '-' :: after =>
        match mode.skip after with
        | ']' :: _ | '-' :: _ => return '-' :: after
        | after =>
            let (last, rest) ← classSymbol? mode after
            match first, last with
            | .letter a _, .letter b _ =>
                if a ≤ b && mode.admitsInClass last then return rest else none
            | _, _ => none
    | rest => return rest
  else none

/-- The number of hyphens that a text begins with, and the text behind them. -/
def hyphens (mode : Mode) : Nat → List Char → Nat × List Char
  | 0, text => (0, text)
  | fuel + 1, text =>
      match mode.skip text with
      | '-' :: rest =>
          let (count, rest) := hyphens mode fuel rest
          (count + 1, rest)
      | text => (0, text)

/-- Read the begin of a class behind its bracket: the mark of a negated one, and the
items that stand for themselves only there, hyphens or one closing bracket. -/
def openClass? (mode : Mode) (text : List Char) : Option (List Nat × List Char) := do
  let text ←
    match mode.skip text with
    | '^' :: rest => if mode.wide then some rest else none
    | text => some text
  let (count, rest) :=
    match hyphens mode text.length text with
    | (0, ']' :: rest) => (1, rest)
    | read => read
  if count = 0 || mode.admitsInClass (.letter '-' false) then
    return (List.replicate count 0, rest)
  else none

/-- Read the items of a class up to its end, behind those that have been read. -/
def classItems? (mode : Mode) :
    Nat → Option Nat → List Nat → List Char → Option (Nat × List Char)
  | 0, _, _, _ => none
  | fuel + 1, left, items, text => do
      match mode.skip text with
      | [] => none
      | ']' :: rest => return (operation left items, rest)
      | '&' :: '&' :: rest | '-' :: '-' :: rest | '~' :: '~' :: rest =>
          classItems? mode fuel (some (operation left items)) [] rest
      | '[' :: inner =>
          match namedClass? inner with
          | some (negated, rest) =>
              if mode.admitsNamed negated then classItems? mode fuel left (0 :: items) rest
              else none
          | none =>
              let (begun, rest) ← openClass? mode inner
              let (depth, rest) ← classItems? mode fuel none begun rest
              classItems? mode fuel left ((1 + depth) :: items) rest
      | text => classItems? mode fuel left (0 :: items) (← range? mode text)

/-- Read a class behind its bracket: its nesting, and the text behind it. -/
def class? (mode : Mode) (text : List Char) : Option (Nat × List Char) := do
  let (begun, rest) ← openClass? mode text
  let (depth, rest) ← classItems? mode (text.length + 1) none begun rest
  return (1 + depth, rest)

end DialSelect.Pattern
