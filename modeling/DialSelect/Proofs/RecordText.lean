/-
# DialSelect.Proofs.RecordText -- a record is read as it was printed

The text of a socket has an address in front of its port, and the brackets, the
percent sign and the colon that divide it stand in none of its parts, so every socket
is read as it was printed (`Socket.read?_print`).  A bare address with a zone is so
too if the zone is one that a reader may attach (`ZonedIp.read_print`), which holds of
all that was read.  Neither text has a blank, unless a zone has one, so trimming
changes nothing: a socket's text says all about it (`Record.faithful_sockets`), and
candidates without blanks keep their records when they are printed and read again
(`Record.read_print_of_read`).

A path is printed as it is, but read without one marker in front
(`SocketPath.read?_eq_some_iff`).
-/
import DialSelect.Proofs.IpText
import DialSelect.Record

namespace DialSelect

set_option autoImplicit false

/-! ## Sockets -/

namespace Socket

def letters : List Char := '[' :: ']' :: '%' :: Ipv6.letters

theorem solid_letters : Text.Solid letters := by
  have clean : letters.all (fun c => !Text.isBlank c) := by decide
  intro c member
  simpa using List.all_eq_true.1 clean c member

theorem port?_decimal (port : UInt16) : port? (Numeral.decimal port.toNat) = some port := by
  rw [port?, Numeral.decimalBelow?_decimal port.toNat_lt, Option.map_some, UInt16.ofNat_toNat]

theorem scopeNumber?_decimal (scope : UInt32) :
    scopeNumber? (Numeral.decimal scope.toNat) = some scope := by
  rw [scopeNumber?, Numeral.decimalBelow?_decimal scope.toNat_lt, Option.map_some,
    UInt32.ofNat_toNat]

/-- What is printed behind an address for its scope: nothing for scope zero. -/
def zoneText (scope : UInt32) : List Char :=
  if scope = 0 then [] else '%' :: Numeral.decimal scope.toNat

theorem print_v6 (ip : Ipv6) (port : UInt16) (scope : UInt32) :
    (Socket.v6 ip port scope).print =
      '[' :: ((ip.print ++ zoneText scope) ++ ']' :: ':' :: Numeral.decimal port.toNat) := rfl

theorem decimal_subset_letters (n : Nat) : Numeral.decimal n ⊆ letters :=
  List.Subset.trans (Numeral.decimal_subset n) (by decide)

theorem zoneText_subset (scope : UInt32) : zoneText scope ⊆ '%' :: Numeral.letters 10 := by
  unfold zoneText
  split
  · exact List.nil_subset _
  · exact List.cons_subset_cons '%' (Numeral.decimal_subset _)

theorem scopedIpv6?_print (ip : Ipv6) (scope : UInt32) :
    scopedIpv6? (ip.print ++ zoneText scope) = some (ip, scope) := by
  have free : '%' ∉ ip.print := fun percent => absurd (ip.print_subset percent) (by decide)
  unfold zoneText
  split
  · rename_i zero
    rw [List.append_nil, scopedIpv6?, Text.cut?_eq_none free, ip.read?_print, zero]
    rfl
  · rw [scopedIpv6?, Text.cut?_append free]
    simp only [ip.read?_print, scopeNumber?_decimal]
    rfl

theorem read?_of_plain {text : List Char} (plain : text.head? ≠ some '[') :
    read? text = do
      let (ip, port) ← Text.cut? ':' text
      return .v4 (← Ipv4.read? ip) (← port? port) := by
  unfold read?
  split
  · exact absurd rfl plain
  · rfl

/-- **A socket is read as it was printed.** -/
theorem read?_print (socket : Socket) : read? socket.print = some socket := by
  cases socket with
  | v4 ip port =>
      have colonFree : ':' ∉ ip.print := fun colon => absurd (ip.print_subset colon) (by decide)
      have plain : (print (.v4 ip port)).head? ≠ some '[' := by
        intro bracket
        rcases List.mem_append.1 (List.mem_of_mem_head? bracket) with inside | behind
        · exact absurd (ip.print_subset inside) (by decide)
        · rcases List.mem_cons.1 behind with colon | digit
          · exact absurd colon (by decide)
          · exact absurd (Numeral.decimal_subset _ digit) (by decide)
      rw [read?_of_plain plain, print, Text.cut?_append colonFree]
      simp only [Option.bind_eq_bind, Option.bind_some, ip.read?_print, port?_decimal]
      rfl
  | v6 ip port scope =>
      have bracketFree : ']' ∉ ip.print ++ zoneText scope := by
        intro bracket
        rcases List.mem_append.1 bracket with inside | behind
        · exact absurd (ip.print_subset inside) (by decide)
        · exact absurd (zoneText_subset scope behind) (by decide)
      rw [print_v6, read?, Text.cut?_append bracketFree]
      simp only [Option.bind_eq_bind, Option.bind_some, scopedIpv6?_print, port?_decimal]
      rfl

theorem print_subset (socket : Socket) : socket.print ⊆ letters := by
  have address : Ipv6.letters ⊆ letters := by decide
  cases socket with
  | v4 ip port =>
      have quad : ip.print ⊆ letters := List.Subset.trans ip.print_subset (by decide)
      exact List.append_subset.2 ⟨quad,
        List.cons_subset.2 ⟨by decide, decimal_subset_letters port.toNat⟩⟩
  | v6 ip port scope =>
      have zone : zoneText scope ⊆ letters :=
        List.Subset.trans (zoneText_subset scope) (by decide)
      rw [print_v6]
      refine List.cons_subset.2 ⟨by decide, List.append_subset.2 ⟨List.append_subset.2 ⟨?_, zone⟩,
        List.cons_subset.2 ⟨by decide, List.cons_subset.2 ⟨by decide, ?_⟩⟩⟩⟩
      · exact List.Subset.trans ip.print_subset address
      · exact decimal_subset_letters port.toNat

theorem solid_print (socket : Socket) : Text.Solid socket.print :=
  solid_letters.subset socket.print_subset

theorem print_ne_nil (socket : Socket) : socket.print ≠ [] := by
  cases socket with
  | v4 ip port => exact List.append_ne_nil_of_right_ne_nil _ (List.cons_ne_nil _ _)
  | v6 ip port scope => exact List.cons_ne_nil _ _

end Socket

/-! ## Addresses with a zone -/

namespace ZonedIp

/-- A zone, if there is one, is not empty and stands behind an IPv6 address. -/
def WellZoned (record : ZonedIp) : Prop :=
  ∀ zone, record.zone = some zone → zone.toList ≠ [] ∧ record.ip.family = .v6

theorem attach_eq_ok_iff {zone : List Char} {ip : Ip} {record : ZonedIp} :
    attach zone ip = .ok record ↔
      zone ≠ [] ∧ ip.family = .v6 ∧ record = ⟨ip, some (String.ofList zone)⟩ := by
  unfold attach
  cases zone with
  | nil => simp
  | cons c rest =>
      cases ip with
      | v4 ip => simp [Ip.family]
      | v6 ip => simp [Ip.family, eq_comm]

/-- The text of an address ends at its percent sign, and what is behind that is the zone, also
if there is another percent sign in it. -/
theorem read_zoned (ip : Ip) (zone : List Char) :
    read (ip.print ++ '%' :: zone) = attach zone ip := by
  have free : '%' ∉ ip.print := fun percent => absurd (ip.print_subset percent) (by decide)
  simp only [read, Text.cut?_append free, ip.read?_print]

/-- An address with a zone that a reader may attach is read as it was printed. -/
theorem read_print {record : ZonedIp} (well : record.WellZoned) :
    read record.print = .ok record := by
  obtain ⟨ip, zone⟩ := record
  cases zone with
  | none =>
      have free : '%' ∉ ip.print := fun percent => absurd (ip.print_subset percent) (by decide)
      simp only [print, read, Text.cut?_eq_none free, ip.read?_print]
  | some zone =>
      obtain ⟨nonempty, six⟩ := well zone rfl
      rw [print, read_zoned]
      exact attach_eq_ok_iff.2 ⟨nonempty, six, by rw [String.ofList_toList]⟩

/-- What was read with a zone has it from behind a percent sign. -/
theorem exists_of_read {text : List Char} {record : ZonedIp} (accepted : read text = .ok record)
    {zone : String} (zoned : record.zone = some zone) :
    ∃ front, text = front ++ '%' :: zone.toList ∧ zone.toList ≠ [] ∧ record.ip.family = .v6 := by
  unfold read at accepted
  split at accepted
  · split at accepted
    · cases accepted
    · obtain rfl := Except.ok.inj accepted
      cases zoned
  · rename_i front back cut
    split at accepted
    · cases accepted
    · obtain ⟨nonempty, six, rfl⟩ := attach_eq_ok_iff.1 accepted
      obtain rfl := Option.some.inj zoned
      rw [String.toList_ofList]
      exact ⟨front, (Text.eq_of_cut? cut).1, nonempty, six⟩

/-- What was read has a zone that a reader may attach, and the zone is part of the
text. -/
theorem wellZoned_of_read {text : List Char} {record : ZonedIp}
    (accepted : read text = .ok record) :
    record.WellZoned ∧ ∀ zone, record.zone = some zone → zone.toList ⊆ text := by
  refine ⟨fun zone zoned => ?_, fun zone zoned => ?_⟩
  · obtain ⟨front, -, well⟩ := exists_of_read accepted zoned
    exact well
  · obtain ⟨front, rfl, -⟩ := exists_of_read accepted zoned
    exact fun c inside => List.mem_append_right _ (List.mem_cons_of_mem _ inside)

theorem print_ne_nil (record : ZonedIp) : record.print ≠ [] := by
  obtain ⟨ip, _ | zone⟩ := record
  · exact ip.print_ne_nil
  · exact List.append_ne_nil_of_right_ne_nil _ (List.cons_ne_nil _ _)

/-- Only a zone can bring blanks into the text. -/
theorem solid_print {record : ZonedIp}
    (solid : ∀ zone, record.zone = some zone → Text.Solid zone.toList) :
    Text.Solid record.print := by
  have address : Text.Solid record.ip.print :=
    Socket.solid_letters.subset (List.Subset.trans record.ip.print_subset (by decide))
  obtain ⟨ip, _ | zone⟩ := record
  · exact address
  · intro c inside
    rcases List.mem_append.1 inside with before | behind
    · exact address c before
    · rcases List.mem_cons.1 behind with rfl | within
      · rfl
      · exact solid zone rfl c within

end ZonedIp

/-! ## Paths -/

namespace SocketPath

theorem stripLead?_marker_eq_none_iff {text : List Char} :
    Text.stripLead? marker text = none ↔ ¬marker <+: text := by
  rw [Option.eq_none_iff_forall_ne_some]
  constructor
  · rintro refused ⟨rest, parts⟩
    exact refused rest (Text.stripLead?_eq_some_iff.2 parts.symm)
  · intro unmarked rest stripped
    exact unmarked ⟨rest, (Text.stripLead?_eq_some_iff.1 stripped).symm⟩

theorem eq_mk_iff {record : SocketPath} {path : List Char} :
    record = ⟨String.ofList path⟩ ↔ record.path.toList = path := by
  obtain ⟨text⟩ := record
  rw [mk.injEq]
  constructor
  · rintro rfl
    exact String.toList_ofList
  · rintro rfl
    exact String.ofList_toList.symm

/-- What is read is not empty, and stands behind the marker or is a whole text without it. -/
theorem read?_eq_some_iff {text : List Char} {record : SocketPath} :
    read? text = some record ↔ record.path.toList ≠ [] ∧
      (text = marker ++ record.path.toList ∨ ¬marker <+: text ∧ text = record.path.toList) := by
  have taken (path : List Char) : (if path.isEmpty then none else some (mk (String.ofList path))) =
      some record ↔ record.path.toList ≠ [] ∧ path = record.path.toList := by
    rw [Option.ite_none_left_eq_some, Option.some.injEq, List.isEmpty_iff, eq_comm (b := record),
      eq_mk_iff]
    exact ⟨fun ⟨nonempty, same⟩ => ⟨same ▸ nonempty, same.symm⟩,
      fun ⟨nonempty, same⟩ => ⟨same ▸ nonempty, same.symm⟩⟩
  simp only [read?]
  cases stripped : Text.stripLead? marker text with
  | none =>
      have unmarked := stripLead?_marker_eq_none_iff.1 stripped
      have apart : text ≠ marker ++ record.path.toList := fun same => unmarked ⟨_, same.symm⟩
      rw [Option.getD_none, taken]
      simp only [apart, unmarked, not_false_eq_true, true_and, false_or]
  | some rest =>
      obtain rfl := Text.eq_of_stripLead? stripped
      rw [Option.getD_some, taken]
      simp only [List.append_cancel_left_eq, List.prefix_append, not_true_eq_false, false_and,
        or_false]

end SocketPath

/-! ## Records -/

namespace Record

theorem readSocket_print (network : Network) (socket : Socket) :
    readSocket network (Text.trim (String.ofList socket.print).toList) = .ok socket := by
  rw [String.toList_ofList, Text.trim_of_solid socket.solid_print, readSocket,
    if_neg (by simp [socket.print_ne_nil]), socket.read?_print]

theorem readZonedIp_eq_ok_iff {text : List Char} {record : ZonedIp} :
    readZonedIp text = .ok record ↔ text ≠ [] ∧ ZonedIp.read text = .ok record := by
  unfold readZonedIp
  cases text with
  | nil => simp
  | cons c rest => cases ZonedIp.read (c :: rest) <;> simp

theorem readSocketPath_eq_ok_iff {text : List Char} {record : SocketPath} :
    readSocketPath text = .ok record ↔ SocketPath.read? text = some record := by
  unfold readSocketPath
  cases SocketPath.read? text <;> simp

/-- The text of a record of a network says all about it. -/
structure Faithful (network : Network) : Prop where
  /-- Every record is read as it was printed. -/
  read_print : ∀ record, read network (print network record) = .ok record
  /-- Whatever text a record was read from, it is read again from the text it is printed
  as. -/
  reread : ∀ text, (read network text).bind (fun record => read network (print network record)) =
    read network text
  /-- Its family survives the printing. -/
  family : ∀ record, (read network (print network record)).map (family? network) =
    .ok (family? network record)
  /-- Records with one text are one record. -/
  print_inj : ∀ record other, print network record = print network other ↔ record = other

/-- A reader that undoes the printer makes the text faithful. -/
theorem Faithful.of_read_print {network : Network}
    (undoes : ∀ record, read network (print network record) = .ok record) : Faithful network where
  read_print := undoes
  reread text := by
    cases read network text with
    | error fault => rfl
    | ok record => exact undoes record
  family record := by rw [undoes, Except.map]
  print_inj record other := by
    constructor
    · intro same
      have both := undoes record
      rw [same, undoes other] at both
      exact (Except.ok.inj both).symm
    · exact congrArg (print network)

/-- **The text of a socket says all about it**, over either network of sockets: its
address of either family, all eight groups of it, its port and its scope.  An IPv4
address that is embedded in an IPv6 address stays in the family of the latter. -/
theorem faithful_sockets :
    Faithful .tcp ∧ Faithful .udp ∧
    ∀ (ip : Ipv6) (port : UInt16) (scope : UInt32),
      (read .tcp (print .tcp (.v6 ip port scope))).map (family? .tcp) = .ok (some .v6) ∧
      (read .udp (print .udp (.v6 ip port scope))).map (family? .udp) = .ok (some .v6) := by
  have tcp : Faithful .tcp := .of_read_print (readSocket_print .tcp)
  have udp : Faithful .udp := .of_read_print (readSocket_print .udp)
  exact ⟨tcp, udp, fun ip port scope =>
    ⟨tcp.family (.v6 ip port scope), udp.family (.v6 ip port scope)⟩⟩

example : print .tcp (.v6 ⟨[0, 0, 0, 0, 0, 0xFFFF, 0xC000, 0x0201], rfl⟩ 80 7) =
    "[::ffff:192.0.2.1%7]:80" := by decide

/-- A candidate without blanks is read again from the text of its record, which has no
blanks either. -/
theorem read_print_of_read {network : Network} (ip : network.hasIp) {text : String}
    (solid : Text.Solid text.toList) {record : network.Record}
    (accepted : read network text = .ok record) :
    (print network record).toList ≠ [] ∧ Text.Solid (print network record).toList ∧
      read network (print network record) = .ok record := by
  have socket (network : Network) (socket : Socket) :
      (String.ofList socket.print).toList ≠ [] ∧ Text.Solid (String.ofList socket.print).toList ∧
        readSocket network (Text.trim (String.ofList socket.print).toList) = .ok socket := by
    refine ⟨?_, ?_, readSocket_print network socket⟩
    · rw [String.toList_ofList]
      exact socket.print_ne_nil
    · rw [String.toList_ofList]
      exact socket.solid_print
  cases network with
  | tcp => exact socket .tcp record
  | udp => exact socket .udp record
  | ip =>
      rw [read, Text.trim_of_solid solid] at accepted
      obtain ⟨well, within⟩ := ZonedIp.wellZoned_of_read (readZonedIp_eq_ok_iff.1 accepted).2
      have printed : Text.Solid (ZonedIp.print record) :=
        ZonedIp.solid_print fun zone attached => solid.subset (within zone attached)
      rw [print, read, String.toList_ofList, Text.trim_of_solid printed]
      have nonempty := ZonedIp.print_ne_nil record
      exact ⟨nonempty, printed, readZonedIp_eq_ok_iff.2 ⟨nonempty, ZonedIp.read_print well⟩⟩
  | unix => cases ip

end Record

end DialSelect
