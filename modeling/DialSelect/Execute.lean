/-
# DialSelect.Execute -- one selection

The candidates are the addresses of the settings or, if there are none, the words
on the standard input.  Every candidate is read before any policy is applied, and
the first that cannot be read ends the run.  Then the chain of the policies is
applied, and the result is reported.

The permuter is that of the seed; without a seed it is the one the caller gives.
-/
import DialSelect.Chain
import DialSelect.Record
import DialSelect.Selection
import DialSelect.Settings

namespace DialSelect

set_option autoImplicit false

/-- The standard input: its bytes, or a reader that fails. -/
inductive Input where
  | bytes (content : ByteArray)
  | failing (reason : String)

inductive InputFault where
  | notUtf8
  | failed (reason : String)
  deriving DecidableEq, Repr

/-- The wording of bytes that are no text. -/
def notUtf8Message : String := "stream did not contain valid UTF-8"

def InputFault.message : InputFault → String
  | .notUtf8 => notUtf8Message
  | .failed reason => reason

inductive RunError where
  | address (error : AddressError)
  | input (fault : InputFault)
  /-- The permuter answered with an index past the end.  To read there would abort the
  program; here the run fails, as for any other reason.  A fair permuter never answers so. -/
  | order (fault : IndexFault)
  deriving DecidableEq, Repr

def RunError.message : RunError → String
  | .address error => error.message
  | .input fault => "Failed to read addresses from stdin: " ++ fault.message
  | .order fault => fault.message

/-- The outcome of a run and what it reported on the way. -/
structure Run where
  outcome : Except RunError Selection
  events : List Event

namespace Run

def failed (events : List Event) (error : RunError) : Run :=
  ⟨.error error, events⟩

def inputText : Input → Except InputFault String
  | .failing reason => .error (.failed reason)
  | .bytes content =>
      match String.fromUTF8? content with
      | some text => .ok text
      | none => .error .notUtf8

def inputWords (input : Input) : Except InputFault (List String) :=
  (inputText input).map fun text => (Text.words text.toList).map String.ofList

def candidates (settings : Settings) (input : Input) : Except InputFault (List String) :=
  if settings.addrs.isEmpty then inputWords input else .ok settings.addrs

variable {σ : Type}

/-- Apply the chain of some policies to records: the records left, none if the chain
yields nothing, and the reports of the chain. -/
def pickRecords (network : Network) (policies : List Policy) (records : List network.Record)
    (permuter : Permuter σ) (state : σ) :
    Except IndexFault (List network.Record × List Event) := do
  let applied ← (Chain.ofPolicies policies).apply (Record.family? network) permuter
    (some records) state
  return (applied.value.getD [], applied.events)

def summary (candidates selected : Nat) : Event :=
  if selected = 0 then .nothingSelected candidates else .selectionComplete candidates selected

/-- What is reported about a seed that nothing uses. -/
def seedReport (settings : Settings) : List Event :=
  if settings.seed.isSome && !settings.isRandom then [.seedUnused] else []

def select (settings : Settings) (texts : List String) (permuter : Permuter σ) (state : σ) :
    Run :=
  let network := settings.network
  let before := seedReport settings
  match Record.readAll network texts with
  | .error error => failed before (.address error)
  | .ok records =>
      let before := before ++ [.candidatesRead network records.length]
      match pickRecords network settings.policy records permuter state with
      | .error fault => failed before (.order fault)
      | .ok (picked, events) =>
          let selected := picked.map (Record.print network)
          ⟨.ok ⟨network, records.length, settings.policy, selected⟩,
            before ++ events ++ [summary records.length selected.length]⟩

end Run

/-- Execute one selection.  `unseeded` is the permuter of a run without a seed. -/
def execute {σ : Type} (settings : Settings) (input : Input) (unseeded : Permuter σ)
    (state : σ) : Run :=
  match Run.candidates settings input with
  | .error fault => Run.failed [] (.input fault)
  | .ok texts =>
      match settings.seed with
      | some seed => Run.select settings texts Permuter.seeded (.ofSeed seed)
      | none => Run.select settings texts unseeded state

end DialSelect
