/-
# DialSelect.Settings -- the settings of a run

A setting is taken from the command line if it is given there, else from the
configuration file, else from the defaults; a list of policies on the command line
replaces that of the file as a whole.  Only the values in effect are read, so a
value that is overridden may be anything.  They are read in the order network,
policies, format, and the first that cannot be read decides.
-/
import DialSelect.CommandLine
import DialSelect.ConfigFile
import DialSelect.FirstFault
import DialSelect.Policy.Basic

namespace DialSelect

set_option autoImplicit false

/-- The settings of a run.  No addresses means that they are read from the
standard input. -/
structure Settings where
  network : Network
  policy : List Policy
  seed : Option Nat
  format : OutputFormat
  addrs : List String
  verbose : Bool
  deriving DecidableEq, Repr

inductive SettingsError where
  | network (text : String)
  | policy (text : String) (error : PolicyError)
  | format (text : String)
  deriving DecidableEq, Repr

def SettingsError.message : SettingsError → String
  | .network text => "Invalid network '" ++ text ++ "': expected tcp, udp, ip, or unix"
  | .policy text error => "Invalid policy '" ++ text ++ "': " ++ error.message
  | .format text => "Invalid output format '" ++ text ++ "': expected text or json"

namespace Settings

def defaultNetwork : Network := .tcp

def defaultPolicy : Policy := .pick .default

def defaultFormat : OutputFormat := .text

def mergeNetwork (line : CommandLine) (file : ConfigFile) : Except SettingsError Network :=
  match line.network, file.network with
  | some network, _ => .ok network
  | none, none => .ok defaultNetwork
  | none, some text =>
      match Network.read? text with
      | some network => .ok network
      | none => .error (.network text)

def readPolicy (text : String) : Except SettingsError Policy :=
  (Policy.read text).mapError (.policy text)

/-- Read policies in order; the first that is none decides. -/
def readPolicies (texts : List String) : Except SettingsError (List Policy) :=
  texts.mapM readPolicy

def mergePolicy (line : CommandLine) (file : ConfigFile) : Except SettingsError (List Policy) :=
  let texts := if line.policies.isEmpty then file.policy else line.policies
  if texts.isEmpty then .ok [defaultPolicy] else readPolicies texts

def mergeFormat (line : CommandLine) (file : ConfigFile) : Except SettingsError OutputFormat :=
  match line.format, file.format with
  | some format, _ => .ok format
  | none, none => .ok defaultFormat
  | none, some text =>
      match OutputFormat.read? text with
      | some format => .ok format
      | none => .error (.format text)

/-- The settings in effect; no file gives what a file with nothing in it gives. -/
def merge (line : CommandLine) (file : Option ConfigFile) : Except SettingsError Settings := do
  let file := file.getD .empty
  let network ← mergeNetwork line file
  let policy ← mergePolicy line file
  let format ← mergeFormat line file
  return ⟨network, policy, line.seed.or file.seed, format, line.addrs, line.verbose⟩

def isRandom (settings : Settings) : Bool :=
  settings.policy.any Policy.isRandom

def describe (settings : Settings) : String :=
  let policy := String.intercalate " -> " (settings.policy.map Policy.name)
  let seed :=
    match settings.seed with
    | some seed => toString seed
    | none => "random"
  let addrs := if settings.addrs.isEmpty then "stdin" else toString settings.addrs.length
  "Config \x7b network: " ++ settings.network.name ++ ", policy: [" ++ policy ++ "], seed: " ++
    seed ++ ", format: " ++ settings.format.name ++ ", addrs: " ++ addrs ++ " \x7d"

theorem mergePolicy_ne_nil {line : CommandLine} {file : ConfigFile} {policies : List Policy}
    (merged : mergePolicy line file = .ok policies) : policies ≠ [] := by
  unfold mergePolicy at merged
  dsimp only at merged
  generalize (if line.policies.isEmpty then file.policy else line.policies) = texts at merged
  cases texts with
  | nil =>
      simp only [List.isEmpty_nil, if_true, Except.ok.injEq] at merged
      simp [← merged]
  | cons text others =>
      simp only [List.isEmpty_cons, Bool.false_eq_true, if_false] at merged
      rintro rfl
      simpa using FirstFault.length_eq_of_mapM merged

end Settings

end DialSelect
