/-
# DialSelect.ConfigFile -- what a configuration file says

A configuration file has two sections.  `select` may name a network, a list of
policies and a seed; `output` may name a format.  Every other name, and every
value of another kind, makes the whole file unacceptable.  The texts are kept as
they are written: whether they name anything is decided when the settings are
merged, and only for those that are in effect.

A section may also be written as an array of its values in the order above.  Then
the network and the seed of `select`, and the format of `output`, have to be there.
-/
import DialSelect.Toml.Document

namespace DialSelect

set_option autoImplicit false

structure ConfigFile where
  network : Option String
  policy : List String
  seed : Option Nat
  format : Option String
  deriving DecidableEq, Repr

namespace ConfigFile

open Toml

def empty : ConfigFile := ⟨none, [], none, none⟩

def optional {α : Type} (read : Value → Option α) : Option Value → Option (Option α)
  | none => some none
  | some value => (read value).map some

/-- A seed is a whole number of 64 bits. -/
def seed? (value : Value) : Option Nat := do
  let n ← value.integer?
  if 0 ≤ n ∧ n.toNat < Numeral.countBound then some n.toNat else none

/-- What the section `select` gives: the network, the policies and the seed. -/
abbrev Select := Option String × List String × Option Nat

def select? : Option Value → Option Select
  | none => some (none, [], none)
  | some (.table table) =>
      if knownBy ["network", "policy", "seed"] table then do
        let network ← optional Value.text? (table.lookup "network")
        let policy ← optional Value.texts? (table.lookup "policy")
        let seed ← optional seed? (table.lookup "seed")
        return (network, policy.getD [], seed)
      else none
  | some (.array (network :: policy :: seed :: _)) => do
      return (some (← network.text?), ← policy.texts?, some (← seed? seed))
  | some _ => none

def output? : Option Value → Option (Option String)
  | none => some none
  | some (.table table) =>
      if knownBy ["format"] table then optional Value.text? (table.lookup "format") else none
  | some (.array (format :: _)) => (format.text?).map some
  | some _ => none

def ofTable? (table : Table) : Option ConfigFile :=
  if knownBy ["select", "output"] table then do
    let (network, policy, seed) ← select? (table.lookup "select")
    let format ← output? (table.lookup "output")
    return ⟨network, policy, seed, format⟩
  else none

def read? (text : String) : Option ConfigFile := do
  ofTable? (← Toml.read? text.toList)

/-- The lines of a configuration file that sets what is set anyway, with every
setting explained. -/
def templateLines : List String := [
  "# addr-pick configuration file",
  "",
  "[select]",
  "# Network of the candidate addresses (default: tcp)",
  "# Accepted values: \"tcp\", \"udp\", \"ip\", \"unix\"",
  "network = \"tcp\"",
  "",
  "# Selection policies, applied in order (default: [\"default\"])",
  "# Note: --policy CLI flags REPLACE this list entirely (not merged)",
  "# Accepted values:",
  "#   default     first IPv4 address, else first IPv6 address",
  "#   all         every address, unchanged",
  "#   first       the first address",
  "#   first-each  the first IPv4 and the first IPv6 address",
  "#   first-ipv4  the first IPv4 address",
  "#   first-ipv6  the first IPv6 address",
  "#   ipv4        every IPv4 address",
  "#   ipv6        every IPv6 address",
  "#   max:N       at most N addresses, split fairly between IPv4 and IPv6",
  "#   reverse     every address, in reverse order",
  "#   shuffle     every address, in random order",
  "policy = [\"default\"]",
  "",
  "# Seed for deterministic shuffling (default: random)",
  "# seed = 42",
  "",
  "[output]",
  "# Output format: \"text\" (one address per line) or \"json\" (default: text)",
  "# format = \"text\""]

/-- The characters of that file: its lines, each with a line feed. -/
def templateText : List Char :=
  templateLines.flatMap fun line => line.toList ++ ['\n']

def template : String :=
  String.ofList templateText

end ConfigFile

end DialSelect
