/-
# DialSelect.Event -- what a run reports

Every report of the library and of the program is one event.  An event has a
level, a source, and a line of text: its message, then its fields as `name=value`.
-/
import DialSelect.Network

namespace DialSelect

set_option autoImplicit false

/-- How important a report is, the least important first. -/
inductive Level where
  | trace
  | debug
  | info
  | warn
  | error
  deriving DecidableEq, Repr

namespace Level

def name : Level → String
  | .trace => "TRACE"
  | .debug => "DEBUG"
  | .info => "INFO"
  | .warn => "WARN"
  | .error => "ERROR"

def rank : Level → Nat
  | .trace => 0
  | .debug => 1
  | .info => 2
  | .warn => 3
  | .error => 4

end Level

inductive Event where
  /-- A stage of a chain was applied and left that many records. -/
  | stageApplied (stage remaining : Nat)
  /-- The default choice found no record with an address. -/
  | noAddressFamily (length : Nat)
  /-- A seed was given, but no policy draws on randomness. -/
  | seedUnused
  /-- Every candidate was read. -/
  | candidatesRead (network : Network) (candidates : Nat)
  /-- The policies left nothing. -/
  | nothingSelected (candidates : Nat)
  /-- The policies left something. -/
  | selectionComplete (candidates selected : Nat)
  /-- The settings a run starts with. -/
  | settings (text : String)
  /-- A run failed. -/
  | runFailed (reason : String)
  deriving DecidableEq, Repr

namespace Event

def level : Event → Level
  | .stageApplied _ _ => .trace
  | .noAddressFamily _ => .warn
  | .seedUnused => .debug
  | .candidatesRead _ _ => .debug
  | .nothingSelected _ => .warn
  | .selectionComplete _ _ => .debug
  | .settings _ => .debug
  | .runFailed _ => .error

def message : Event → String
  | .stageApplied _ _ => "Applied address filter"
  | .noAddressFamily _ => "No IPv4 or IPv6 address among candidates; selecting none"
  | .seedUnused => "Seed has no effect: no random policy configured"
  | .candidatesRead _ _ => "Parsed candidate addresses"
  | .nothingSelected _ => "No address selected"
  | .selectionComplete _ _ => "Selection complete"
  | .settings text => text
  | .runFailed reason => "Application error: " ++ reason

/-- The fields of an event, in the order they are written. -/
def fields : Event → List (String × String)
  | .stageApplied stage remaining =>
      [("stage", toString stage), ("remaining", toString remaining)]
  | .noAddressFamily length => [("len", toString length)]
  | .candidatesRead network candidates =>
      [("network", network.name), ("candidates", toString candidates)]
  | .nothingSelected candidates => [("candidates", toString candidates)]
  | .selectionComplete candidates selected =>
      [("candidates", toString candidates), ("selected", toString selected)]
  | .seedUnused | .settings _ | .runFailed _ => []

/-- The names of everything that an event carries: its message and its fields. -/
def fieldNames (event : Event) : List String :=
  "message" :: event.fields.map Prod.fst

/-- The part of the program that an event comes from, by the name a filter uses. -/
def source : Event → String
  | .stageApplied _ _ => "addr_pick::filter::chain"
  | .noAddressFamily _ => "addr_pick::filter::pick"
  | .seedUnused | .candidatesRead _ _ | .nothingSelected _ | .selectionComplete _ _ =>
      "addr_pick::run"
  | .settings _ | .runFailed _ => "addr_pick"

/-- The text of an event: message and fields, one blank between any two. -/
def text (event : Event) : String :=
  event.fields.foldl (fun line field => line ++ " " ++ field.1 ++ "=" ++ field.2) event.message

/-- The line of an event: its level, then its text. -/
def line (event : Event) : String :=
  event.level.name ++ " " ++ event.text

end Event

end DialSelect
