/-
# DialSelect.Ip.Printer -- the text of an IP address

IPv4 is four decimal numbers with dots.  IPv6 is written in lower case with the
longest run of two or more zero groups -- the first one of that length --
replaced by `::`; the mapped range keeps its last 32 bits as a dotted quad.
-/
import DialSelect.Ip.Basic
import DialSelect.Numeral
import DialSelect.Text.Fields

namespace DialSelect

set_option autoImplicit false

/-- Four decimal numbers with dots between them. -/
def Ipv4.print (ip : Ipv4) : List Char :=
  Text.joinWith ['.'] (ip.octets.map fun octet => Numeral.decimal octet.toNat)

def leadingZeros (groups : List UInt16) : Nat :=
  (groups.takeWhile (· = 0)).length

/-- Where the longest run of zero groups starts and how long it is; of equally
long runs the first. -/
def longestZeroRun : List UInt16 → Nat × Nat
  | [] => (0, 0)
  | group :: rest =>
      let here := leadingZeros (group :: rest)
      let later := longestZeroRun rest
      if later.2 ≤ here then (0, here) else (later.1 + 1, later.2)

/-- Groups in hexadecimal with colons between them. -/
def printGroups (groups : List UInt16) : List Char :=
  Text.joinWith [':'] (groups.map fun group => Numeral.hexadecimal group.toNat)

/-- The text of an IPv6 address: mapped addresses with a dotted quad, others with
their longest run of two or more zero groups written `::`. -/
def Ipv6.print (ip : Ipv6) : List Char :=
  match ip.mapped? with
  | some quad => "::ffff:".toList ++ quad.print
  | none =>
      let run := longestZeroRun ip.groups
      if 2 ≤ run.2 then
        printGroups (ip.groups.take run.1) ++ [':', ':'] ++
          printGroups (ip.groups.drop (run.1 + run.2))
      else printGroups ip.groups

def Ip.print : Ip → List Char
  | .v4 ip => ip.print
  | .v6 ip => ip.print

end DialSelect
