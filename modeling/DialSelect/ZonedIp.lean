/-
# DialSelect.ZonedIp -- bare IP addresses with a zone

An IP address and perhaps the name of a zone, written `ip` or `ip%zone`.  A zone
is any non-empty text after the first percent sign, and only IPv6 addresses are
read with one.  The record itself allows any pair, so that a caller who knows
better can build one; reading tells the faults apart.
-/
import DialSelect.Ip.Printer
import DialSelect.Ip.Reader

namespace DialSelect

set_option autoImplicit false

/-- An IP address, perhaps with a zone. -/
structure ZonedIp where
  ip : Ip
  zone : Option String
  deriving DecidableEq, Repr

namespace ZonedIp

inductive Fault where
  | notAnIp
  | emptyZone
  | zoneOnIpv4
  deriving DecidableEq, Repr

def print (record : ZonedIp) : List Char :=
  match record.zone with
  | none => record.ip.print
  | some zone => record.ip.print ++ '%' :: zone.toList

/-- Attach to an address the zone that was written behind it. -/
def attach (zone : List Char) (ip : Ip) : Except Fault ZonedIp :=
  if zone.isEmpty then .error .emptyZone
  else
    match ip with
    | .v4 _ => .error .zoneOnIpv4
    | .v6 _ => .ok ⟨ip, some (String.ofList zone)⟩

/-- Read an address with the zone, if any, behind its first percent sign.  The
address is looked at before the zone. -/
def read (text : List Char) : Except Fault ZonedIp :=
  match Text.cut? '%' text with
  | none =>
      match Ip.read? text with
      | none => .error .notAnIp
      | some ip => .ok ⟨ip, none⟩
  | some (front, zone) =>
      match Ip.read? front with
      | none => .error .notAnIp
      | some ip => attach zone ip

end ZonedIp

end DialSelect
