/-
# DialSelect.Socket -- socket addresses

An IP address with a port, and for IPv6 a numeric scope.  The text is `ip:port`
for IPv4 and `[ip]:port` or `[ip%scope]:port` for IPv6; scope zero is the absence
of a scope and is not printed.  Ports and scopes are decimal, may have leading
zeros and have no sign.
-/
import DialSelect.Ip.Printer
import DialSelect.Ip.Reader

namespace DialSelect

set_option autoImplicit false

inductive Socket where
  | v4 (ip : Ipv4) (port : UInt16)
  | v6 (ip : Ipv6) (port : UInt16) (scope : UInt32)
  deriving DecidableEq, Repr

namespace Socket

/-- The socket at a port of an address, without a scope. -/
def ofIp (port : UInt16) : Ip → Socket
  | .v4 ip => .v4 ip port
  | .v6 ip => .v6 ip port 0

def ip : Socket → Ip
  | .v4 ip _ => .v4 ip
  | .v6 ip _ _ => .v6 ip

def port : Socket → UInt16
  | .v4 _ port => port
  | .v6 _ port _ => port

/-- The scope of an IPv6 socket; IPv4 sockets have none. -/
def scope? : Socket → Option UInt32
  | .v4 _ _ => none
  | .v6 _ _ scope => some scope

def print : Socket → List Char
  | .v4 ip port => ip.print ++ ':' :: Numeral.decimal port.toNat
  | .v6 ip port scope =>
      let zone := if scope = 0 then [] else '%' :: Numeral.decimal scope.toNat
      '[' :: ip.print ++ zone ++ ']' :: ':' :: Numeral.decimal port.toNat

def port? (text : List Char) : Option UInt16 :=
  (Numeral.decimalBelow? UInt16.size text).map UInt16.ofNat

def scopeNumber? (text : List Char) : Option UInt32 :=
  (Numeral.decimalBelow? UInt32.size text).map UInt32.ofNat

/-- Read what stands between the brackets: an address and perhaps a scope. -/
def scopedIpv6? (text : List Char) : Option (Ipv6 × UInt32) :=
  match Text.cut? '%' text with
  | none => (Ipv6.read? text).map (·, 0)
  | some (ip, scope) => do return (← Ipv6.read? ip, ← scopeNumber? scope)

def read? : List Char → Option Socket
  | '[' :: text => do
      let (inside, behind) ← Text.cut? ']' text
      let (ip, scope) ← scopedIpv6? inside
      match behind with
      | ':' :: port => (port? port).map fun port => .v6 ip port scope
      | _ => none
  | text => do
      let (ip, port) ← Text.cut? ':' text
      return .v4 (← Ipv4.read? ip) (← port? port)

end Socket

end DialSelect
