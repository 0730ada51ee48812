/-
# DialSelect.Proofs.ZoneText -- which zones survive their text

A record can be built with any zone behind any address.  Its text is trimmed before it is
read, and cut at its first percent sign, which is the one in front of the zone.  Nothing of
the address is lost by that, and of the zone only the blanks behind it
(`ZonedIp.trim_print`).  What is left of the zone is attached to the address as if it had been
written that way (`ZonedIp.read_trim_print`): with nothing left there is no zone to attach, and
an IPv4 address takes none.

So a record comes back exactly if it has no zone, or one that is not empty and ends in no
blank behind an IPv6 address (`Record.zones_survive`).  Blanks and percent signs elsewhere in
the zone do no harm, and all that was ever read comes back.
-/
import DialSelect.Proofs.RecordText

namespace DialSelect

set_option autoImplicit false

namespace ZonedIp

/-- The zone of a record, if it has one, lasts: the address is of IPv6, and the zone is not
empty and does not end in a blank. -/
def Lasting (record : ZonedIp) : Prop :=
  record.zone = none ∨
    record.ip.family = .v6 ∧ ∃ zone, record.zone = some zone ∧ zone ≠ "" ∧
      Text.EndsSolid zone.toList

/-- Only the blanks behind the zone are trimmed. -/
theorem trim_print (ip : Ip) (zone : String) :
    Text.trim (print ⟨ip, some zone⟩) = ip.print ++ '%' :: Text.trimEnd zone.toList := by
  have solid : Text.Solid ip.print :=
    Socket.solid_letters.subset (List.Subset.trans ip.print_subset (by decide))
  show Text.trim (ip.print ++ '%' :: zone.toList) = _
  rw [Text.trim_append_of_solid solid ip.print_ne_nil, Text.trimEnd_append_cons (by decide)]

/-- What trimming leaves of the zone is attached to the address. -/
theorem read_trim_print (ip : Ip) (zone : String) :
    read (Text.trim (print ⟨ip, some zone⟩)) = attach (Text.trimEnd zone.toList) ip := by
  rw [trim_print, read_zoned]

theorem attach_v4 {zone : List Char} (nonempty : zone ≠ []) {ip : Ip} (four : ip.family = .v4) :
    attach zone ip = .error .zoneOnIpv4 := by
  cases ip with
  | v4 ip => simp [attach, nonempty]
  | v6 ip => cases four

end ZonedIp

namespace Record

/-- The text of a record is read as it is trimmed. -/
theorem read_print_eq (record : ZonedIp) :
    read .ip (print .ip record) = readZonedIp (Text.trim record.print) := by
  show readZonedIp (Text.trim (String.ofList record.print).toList) = _
  rw [String.toList_ofList]

theorem readZonedIp_of_refused {text : List Char} {fault : ZonedIp.Fault} (nonempty : text ≠ [])
    (refused : ZonedIp.read text = .error fault) :
    readZonedIp text = .error (.invalid .ip (String.ofList text) (.zoned fault)) := by
  rw [readZonedIp, if_neg (by simpa using nonempty), refused]

theorem trim_print_ne_nil (ip : Ip) (zone : String) :
    Text.trim (ZonedIp.print ⟨ip, some zone⟩) ≠ [] := by
  rw [ZonedIp.trim_print]
  simp

theorem readZonedIp_print_iff_lasting (record : ZonedIp) :
    readZonedIp (Text.trim record.print) = .ok record ↔ record.Lasting := by
  rw [readZonedIp_eq_ok_iff]
  obtain ⟨ip, _ | zone⟩ := record
  · have solid : Text.Solid (ZonedIp.print ⟨ip, none⟩) := ZonedIp.solid_print nofun
    rw [Text.trim_of_solid solid]
    exact ⟨fun _ => .inl rfl, fun _ => ⟨ZonedIp.print_ne_nil _, ZonedIp.read_print nofun⟩⟩
  · have written : zone.toList = [] ↔ zone = "" := String.toList_eq_nil_iff
    rw [ZonedIp.read_trim_print, ZonedIp.attach_eq_ok_iff]
    constructor
    · rintro ⟨-, nonempty, six, same⟩
      have kept : Text.trimEnd zone.toList = zone.toList := by
        have zones := Option.some.inj (congrArg ZonedIp.zone same)
        simpa using (congrArg String.toList zones).symm
      rw [kept] at nonempty
      exact .inr ⟨six, zone, rfl, mt written.2 nonempty, Text.trimEnd_eq_self_iff.1 kept⟩
    · rintro (⟨⟨⟩⟩ | ⟨six, _, ⟨⟩, nonempty, ended⟩)
      rw [Text.trimEnd_of_endsSolid ended, String.ofList_toList]
      exact ⟨trim_print_ne_nil ip zone, mt written.1 nonempty, six, rfl⟩

/-- Trimming leaves no blank behind a zone, so the zone of a record that was read lasts. -/
theorem lasting_of_read {text : List Char} {record : ZonedIp}
    (accepted : readZonedIp (Text.trim text) = .ok record) : record.Lasting := by
  cases zoned : record.zone with
  | none => exact .inl zoned
  | some zone =>
      obtain ⟨front, parts, nonempty, six⟩ :=
        ZonedIp.exists_of_read (readZonedIp_eq_ok_iff.1 accepted).2 zoned
      have ended : Text.EndsSolid (front ++ ['%'] ++ zone.toList) := by
        rw [List.append_assoc, List.singleton_append, ← parts]
        exact Text.endsSolid_trim text
      refine .inr ⟨six, zone, zoned, ?_, ended.of_append⟩
      exact mt String.toList_eq_nil_iff.2 nonempty

/-- **A record of a bare address comes back from its text exactly if its zone lasts**: it has
none, or one that is not empty and does not end in a blank, behind an IPv6 address.  That holds
of every record that was read from any text.

A zone that does not last shows in one of three ways: nothing is left of it, an IPv4 address
takes none, or the record comes back with what is left. -/
theorem zones_survive (record : ZonedIp) :
    (read .ip (print .ip record) = .ok record ↔ record.Lasting) ∧
    (∀ text, read .ip text = .ok record → read .ip (print .ip record) = .ok record) ∧
    ∀ zone, record.zone = some zone →
      let kept := Text.trimEnd zone.toList
      let refused (fault : ZonedIp.Fault) : Except AddressError ZonedIp :=
        .error (.invalid .ip (String.ofList (record.ip.print ++ '%' :: kept)) (.zoned fault))
      (kept = [] → read .ip (print .ip record) = refused .emptyZone) ∧
      (kept ≠ [] → record.ip.family = .v4 →
        read .ip (print .ip record) = refused .zoneOnIpv4) ∧
      (kept ≠ [] → record.ip.family = .v6 →
        read .ip (print .ip record) = .ok (ZonedIp.mk record.ip (some (String.ofList kept)))) := by
  rw [read_print_eq]
  refine ⟨readZonedIp_print_iff_lasting record, fun text accepted => ?_, ?_⟩
  · exact (readZonedIp_print_iff_lasting record).2 (lasting_of_read accepted)
  · intro zone zoned kept refused
    obtain ⟨ip, _⟩ := record
    obtain rfl : _ = some zone := zoned
    have nonempty := trim_print_ne_nil ip zone
    have attached := ZonedIp.read_trim_print ip zone
    have refuse (fault : ZonedIp.Fault) (why : ZonedIp.attach kept ip = .error fault) :
        readZonedIp (Text.trim (ZonedIp.print ⟨ip, some zone⟩)) = refused fault := by
      rw [readZonedIp_of_refused nonempty (attached.trans why), ZonedIp.trim_print]
    refine ⟨fun empty => refuse .emptyZone ?_, fun left four => refuse .zoneOnIpv4 ?_,
      fun left six => readZonedIp_eq_ok_iff.2 ⟨nonempty, attached.trans ?_⟩⟩
    · rw [empty]
      rfl
    · exact ZonedIp.attach_v4 left four
    · exact ZonedIp.attach_eq_ok_iff.2 ⟨left, six, rfl⟩

/-- A zone with blanks and a percent sign in it lasts, behind an address that embeds one of
IPv4.  A line feed behind it is lost, a zone of blanks is empty, and the embedded address
itself takes no zone. -/
theorem zones_survive_mapped :
    let quad : Ip := .v4 ⟨192, 0, 2, 1⟩
    let mapped : Ip := .v6 ⟨[0, 0, 0, 0, 0, 0xFFFF, 0xC000, 0x0201], rfl⟩
    let record := ZonedIp.mk mapped (some " a%b\tc")
    read .ip "\u3000::ffff:192.0.2.1% a%b\tc " = .ok record ∧
    print .ip record = "::ffff:192.0.2.1% a%b\tc" ∧
    read .ip (print .ip record) = .ok record ∧
    read .ip (print .ip (ZonedIp.mk mapped (some " a%b\tc\n"))) = .ok record ∧
    read .ip (print .ip (ZonedIp.mk mapped (some " \n"))) =
      .error (.invalid .ip "::ffff:192.0.2.1%" (.zoned .emptyZone)) ∧
    read .ip (print .ip (ZonedIp.mk quad (some "eth0"))) =
      .error (.invalid .ip "192.0.2.1%eth0" (.zoned .zoneOnIpv4)) := by
  intro quad mapped record
  have accepted : read .ip "\u3000::ffff:192.0.2.1% a%b\tc " = .ok record := by rfl
  obtain ⟨-, again, -⟩ := zones_survive record
  obtain ⟨-, -, shorter⟩ := zones_survive (ZonedIp.mk mapped (some " a%b\tc\n"))
  obtain ⟨-, -, blank⟩ := zones_survive (ZonedIp.mk mapped (some " \n"))
  obtain ⟨-, -, four⟩ := zones_survive (ZonedIp.mk quad (some "eth0"))
  exact ⟨accepted, rfl, again _ accepted, (shorter _ rfl).2.2 (by decide) rfl,
    (blank _ rfl).1 rfl, (four _ rfl).2.1 (by decide) rfl⟩

end Record

end DialSelect
