/-
# DialSelect.Ip.Basic -- IP addresses and their families

An IPv4 address is four octets, an IPv6 address is eight 16-bit groups.  Every
selection rule of the library looks at an address through its family alone, and
the family is that of the address as written: an IPv4 address embedded in an IPv6
address stays in the sixteen-octet family.
-/

namespace DialSelect

set_option autoImplicit false

inductive Family where
  | v4
  | v6
  deriving DecidableEq, Repr

namespace Family

def name : Family → String
  | .v4 => "IPv4"
  | .v6 => "IPv6"

def octetCount : Family → Nat
  | .v4 => 4
  | .v6 => 16

def ofOctetCount? (count : Nat) : Option Family :=
  if count = octetCount .v4 then some .v4
  else if count = octetCount .v6 then some .v6
  else none

theorem ofOctetCount?_eq_some_iff {count : Nat} {family : Family} :
    ofOctetCount? count = some family ↔ count = family.octetCount := by
  cases family <;> simp only [ofOctetCount?, octetCount]
  · by_cases four : count = 4 <;> by_cases sixteen : count = 16 <;> simp [four, sixteen]
  · by_cases four : count = 4 <;> by_cases sixteen : count = 16 <;> simp [four, sixteen]

end Family

structure Ipv4 where
  a : UInt8
  b : UInt8
  c : UInt8
  d : UInt8
  deriving DecidableEq, Repr

namespace Ipv4

def octets (ip : Ipv4) : List UInt8 := [ip.a, ip.b, ip.c, ip.d]

/-- The first two octets as one group. -/
def high (ip : Ipv4) : UInt16 := ip.a.toUInt16 <<< 8 ||| ip.b.toUInt16

/-- The last two octets as one group. -/
def low (ip : Ipv4) : UInt16 := ip.c.toUInt16 <<< 8 ||| ip.d.toUInt16

def ofGroups (high low : UInt16) : Ipv4 :=
  ⟨(high >>> 8).toUInt8, high.toUInt8, (low >>> 8).toUInt8, low.toUInt8⟩

end Ipv4

/-- An IPv6 address: eight groups, the most significant first. -/
structure Ipv6 where
  groups : List UInt16
  eight : groups.length = 8
  deriving DecidableEq, Repr

namespace Ipv6

/-- The address with these groups, if they are eight. -/
def ofGroups? (groups : List UInt16) : Option Ipv6 :=
  if eight : groups.length = 8 then some ⟨groups, eight⟩ else none

def octets (ip : Ipv6) : List UInt8 :=
  ip.groups.flatMap fun (group : UInt16) => [(group >>> 8).toUInt8, group.toUInt8]

/-- The IPv4 address that an address of the mapped range `::ffff:0:0/96` stands
for. -/
def mapped? (ip : Ipv6) : Option Ipv4 :=
  match ip.groups with
  | [0, 0, 0, 0, 0, 0xFFFF, high, low] => some (Ipv4.ofGroups high low)
  | _ => none

theorem length_octets (ip : Ipv6) : ip.octets.length = 16 := by
  simp [octets, List.length_flatMap, List.map_const', ip.eight]

end Ipv6

inductive Ip where
  | v4 (ip : Ipv4)
  | v6 (ip : Ipv6)
  deriving DecidableEq, Repr

namespace Ip

def family : Ip → Family
  | .v4 _ => .v4
  | .v6 _ => .v6

/-- The octets of an address in network order. -/
def octets : Ip → List UInt8
  | .v4 ip => ip.octets
  | .v6 ip => ip.octets

/-- The family of an address is told by the number of its octets. -/
theorem length_octets (ip : Ip) : ip.octets.length = ip.family.octetCount := by
  cases ip with
  | v4 ip => rfl
  | v6 ip => exact ip.length_octets

end Ip

end DialSelect
