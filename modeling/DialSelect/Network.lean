/-
# DialSelect.Network -- the four networks

A network says what a candidate address looks like and whether it has an IP
address at all.  Names are compared trimmed and in lower case.
-/
import DialSelect.Text.Lowercase

namespace DialSelect

set_option autoImplicit false

inductive Network where
  | tcp
  | udp
  | ip
  | unix
  deriving DecidableEq, Repr

namespace Network

def name : Network → String
  | .tcp => "tcp"
  | .udp => "udp"
  | .ip => "ip"
  | .unix => "unix"

/-- Every network but the local one has addresses with an IP. -/
def hasIp : Network → Bool
  | .unix => false
  | _ => true

/-- The network with exactly this name. -/
def ofName? (name : String) : Option Network :=
  match name with
  | "tcp" => some .tcp
  | "udp" => some .udp
  | "ip" => some .ip
  | "unix" => some .unix
  | _ => none

/-- Read a network's name, in any case and with blanks around it. -/
def read? (text : String) : Option Network :=
  ofName? (String.ofList (Text.lowercase (Text.trim text.toList)))

def unknownMessage (text : String) : String :=
  "Unknown network '" ++ text ++ "': expected tcp, udp, ip, or unix"

theorem ofName?_name (network : Network) : ofName? network.name = some network := by
  cases network <;> rfl

end Network

end DialSelect
