/-
# DialSelect.LogFilter.Directive -- which reports the environment asks for

A directive says from which level on some reports are shown.  It is a level on its
own, which is about every report, or the beginning of a source, and behind it
there may be brackets, with a span and a field, and a level:

    warn
    addr_pick::run=debug
    addr_pick[span{len}]=trace

Without a level all of those reports are shown.  No report of this program stands
in a span or is known by the value of a field, so a directive that asks for one of
these is about none.  The value has to be a number or a pattern all the same, and
that is looked at as soon as the field has been read.

The places of the parts are found in the text without the white space around it,
and the parts are cut from the text as it stands, at those places.  A text with
white space around it is therefore read as another directive, or refused.
-/
import DialSelect.Event
import DialSelect.LogFilter.Pattern
import DialSelect.Text.Fields

namespace DialSelect

set_option autoImplicit false

/-- The least important level that is shown; none if nothing is. -/
abbrev Threshold := Option Level

namespace Threshold

/-- The threshold below which nothing lies. -/
def everything : Threshold := some .trace

def allows (threshold : Threshold) (level : Level) : Bool :=
  threshold.any fun least => least.rank ≤ level.rank

/-- The thresholds by number, from nothing to everything. -/
def ofNumber? : Nat → Option Threshold
  | 0 => some none
  | 1 => some (some .error)
  | 2 => some (some .warn)
  | 3 => some (some .info)
  | 4 => some (some .debug)
  | 5 => some (some .trace)
  | _ => none

/-- The threshold that a word names, in any case of its letters, or a number. -/
def ofWord? (word : List Char) : Option Threshold :=
  match Numeral.readCount word with
  | .ok n => ofNumber? n
  | .error _ =>
      match (String.ofList word).toLower with
      | "off" => some none
      | "error" => some (some .error)
      | "warn" => some (some .warn)
      | "info" => some (some .info)
      | "debug" => some (some .debug)
      | "trace" => some (some .trace)
      | _ => none

end Threshold

/-- The field that a directive asks for: its name, and whether its value matters. -/
structure FieldPattern where
  name : List Char
  valued : Bool
  deriving DecidableEq, Repr

/-- From which level on some reports are shown. -/
structure Directive where
  /-- What the source of a report begins with. -/
  source : Option (List Char)
  span : Option (List Char)
  field : Option FieldPattern
  threshold : Threshold
  deriving DecidableEq, Repr

inductive DirectiveFault where
  | malformed
  /-- What stands where a level belongs names none. -/
  | unknownLevel
  /-- The value of the field is neither a number nor a pattern. -/
  | field (fault : PatternFault)
  deriving DecidableEq, Repr

def DirectiveFault.message : DirectiveFault → String
  | .malformed => "invalid filter directive"
  | .unknownLevel =>
      "error parsing level filter: expected one of \"off\", \"error\", \"warn\", \"info\", " ++
        "\"debug\", \"trace\", or a number 0-5"
  | .field fault => "invalid field filter: " ++ fault.message

namespace Directive

/-! ## Reading -/

def part (text : List Char) (start stop : Nat) : List Char :=
  (text.take stop).drop start

/-- A character that a source begins with. -/
def beginsSource (c : Char) : Bool :=
  c = '-' || c = ':' || c = '_' || Text.isAlphanumeric c

def readLevel (text : List Char) (start : Nat) : Except DirectiveFault Threshold :=
  match text.drop start with
  | [] => .ok .everything
  | word =>
      match Threshold.ofWord? word with
      | some threshold => .ok threshold
      | none => .error .unknownLevel

/-- Read what stands behind the brackets.  `core` is the text in which the places
are found. -/
def readTail (text core : List Char) (start : Nat) : Except DirectiveFault Threshold :=
  match core.drop start with
  | [] => .ok .everything
  | '=' :: _ => readLevel text (start + 1)
  | _ => .error .malformed

def isExponent : List Char → Bool
  | [] => true
  | mark :: rest =>
      let digits :=
        match rest with
        | '+' :: digits | '-' :: digits => digits
        | digits => digits
      (mark = 'e' || mark = 'E') && !digits.isEmpty && digits.all Char.isDigit

/-- Whether a text is a number, with or without a sign, a point and an exponent, or
one of the words for what is not finite. -/
def isNumber (text : List Char) : Bool :=
  let unsigned :=
    match text with
    | '+' :: rest | '-' :: rest => rest
    | rest => rest
  let whole := unsigned.takeWhile Char.isDigit
  let (fraction, rest) :=
    match unsigned.dropWhile Char.isDigit with
    | '.' :: rest => (rest.takeWhile Char.isDigit, rest.dropWhile Char.isDigit)
    | rest => ([], rest)
  ["inf", "infinity", "nan"].contains (String.ofList unsigned).toLower ||
    (!(whole ++ fraction).isEmpty && isExponent rest)

/-- Read a field: its name, and behind an equals sign its value, a number or a
pattern. -/
def readField (text : List Char) : Except DirectiveFault FieldPattern :=
  match Text.fields '=' text with
  | name :: value :: _ =>
      match Pattern.fault? value with
      | some fault => if isNumber value then .ok ⟨name, true⟩ else .error (.field fault)
      | none => .ok ⟨name, true⟩
  | _ => .ok ⟨text, false⟩

/-- Read the brackets of a directive and what stands behind them.  They hold a span,
or a field in braces with perhaps a span in front. -/
def readBrackets (source : Option (List Char)) (text core : List Char) (start : Nat) :
    Except DirectiveFault Directive :=
  let stop := start + ((core.drop start).takeWhile fun c => c ≠ ']' && c ≠ '\x7b').length
  let span := part text start stop
  match core.drop stop with
  | ']' :: _ => do return ⟨source, some span, none, ← readTail text core (stop + 1)⟩
  | '\x7b' :: inner =>
      let close := stop + 1 + (inner.takeWhile (· ≠ '\x7d')).length
      match core.drop close, part text (stop + 1) close with
      | [], _ | _, [] => .error .malformed
      | _ :: rest, field => do
          let field ← readField field
          match rest with
          | ']' :: _ =>
              return ⟨source, if span.isEmpty then none else some span, some field,
                ← readTail text core (close + 2)⟩
          | _ => .error .malformed
  | _ => .error .malformed

def read (text : List Char) : Except DirectiveFault Directive :=
  let core := Text.trim text
  match core with
  | [] => .error .malformed
  | '[' :: _ => readBrackets none text core 1
  | first :: _ =>
      if beginsSource first then
        let stop := (core.takeWhile fun c => c ≠ '=' && c ≠ '[').length
        match core.drop stop with
        | [] =>
            match Threshold.ofWord? text with
            | some threshold => .ok ⟨none, none, none, threshold⟩
            | none => .ok ⟨some text, none, none, .everything⟩
        | '=' :: _ => do
            return ⟨some (part text 0 stop), none, none, ← readLevel text (stop + 1)⟩
        | _ => readBrackets (some (part text 0 stop)) text core (stop + 1)
      else .error .malformed

/-! ## Meaning -/

def concerns (directive : Directive) (event : Event) : Bool :=
  directive.span.isNone &&
    (directive.source.all fun source => source.isPrefixOf event.source.toList) &&
    directive.field.all fun field =>
      !field.valued && event.fieldNames.contains (String.ofList field.name)

/-- The number of characters that a source has to begin with. -/
def reach (directive : Directive) : Nat :=
  (directive.source.map List.length).getD 0

/-- Whether the field of one directive goes before that of another: any field goes
before none, and of two fields the one with the greater name. -/
def fieldPrecedes : Option FieldPattern → Option FieldPattern → Bool
  | some _, none => true
  | some a, some b => b.name < a.name
  | none, _ => false

/-- Whether the first of two directives about an event goes before the second: the
longer source does, and of two equal sources the one whose field does. -/
def precedes (a b : Directive) : Bool :=
  b.reach < a.reach || (a.reach = b.reach && fieldPrecedes a.field b.field)

end Directive

end DialSelect
