/-
# DialSelect.LogFilter -- which reports are shown

Reports from a level on are shown: from `INFO`, or from `DEBUG` when the run is
verbose.  Directives given in the environment replace both.  Of the directives
about a report the most specific one decides, and of two equally specific ones
the later; a report that no directive is about is not shown.  A directive that
cannot be read is left out, with a complaint.

A shown report is one line; characters that a terminal would act on are written as
escapes.
-/
import DialSelect.LogFilter.Directive
import DialSelect.Text.Fields

namespace DialSelect

set_option autoImplicit false

/-- The directives that decide which reports are shown, in the order given. -/
abbrev LogFilter := List Directive

namespace LogFilter

/-- The filter without directives in the environment. -/
def standard (verbose : Bool) : LogFilter :=
  [⟨none, none, none, some (if verbose then .debug else .info)⟩]

/-- The texts of the directives in the environment: what stands between commas. -/
def pieces (environment : Option String) : List (List Char) :=
  (Text.fields ',' (environment.getD "").toList).filter fun piece => !piece.isEmpty

def ofEnvironment (environment : Option String) : LogFilter :=
  (pieces environment).filterMap fun piece => (Directive.read piece).toOption

def choose (environment : Option String) (verbose : Bool) : LogFilter :=
  match ofEnvironment environment with
  | [] => standard verbose
  | directives => directives

def complaint (piece : List Char) (fault : DirectiveFault) : String :=
  "ignoring `" ++ String.ofList piece ++ "`: " ++ fault.message ++ "\n"

def complaints (environment : Option String) : String :=
  String.join ((pieces environment).filterMap fun piece =>
    match Directive.read piece with
    | .ok _ => none
    | .error fault => some (complaint piece fault))

/-- The directive that decides about an event, given the one that decides so far. -/
def prefer (event : Event) (chosen : Option Directive) (next : Directive) : Option Directive :=
  if next.concerns event then
    some ((chosen.filter fun directive => directive.precedes next).getD next)
  else chosen

def deciding? (filter : LogFilter) (event : Event) : Option Directive :=
  filter.foldl (prefer event) none

def shows (filter : LogFilter) (event : Event) : Bool :=
  (filter.deciding? event).any fun directive => directive.threshold.allows event.level

/-- A character of a shown report: what a terminal would act on is written as an
escape, line feed, tab and carriage return excepted. -/
def showChar (c : Char) : List Char :=
  if c = '\x1B' then "\\x1b".toList
  else if c = '\x07' then "\\x07".toList
  else if c = '\x08' then "\\x08".toList
  else if c = '\x0C' then "\\x0c".toList
  else if c = '\x7F' then "\\x7f".toList
  else if 0x80 ≤ c.toNat ∧ c.toNat ≤ 0x9F then
    '\\' :: 'u' :: '\x7b' :: Numeral.hexadecimal c.toNat ++ ['\x7d']
  else [c]

/-- The line of a shown report, with its line feed. -/
def showLine (event : Event) : String :=
  String.ofList (event.line.toList.flatMap showChar) ++ "\n"

def render (filter : LogFilter) (events : List Event) : String :=
  String.join ((events.filter filter.shows).map showLine)

end LogFilter

end DialSelect
