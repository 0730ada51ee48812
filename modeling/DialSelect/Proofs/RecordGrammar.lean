/-
# DialSelect.Proofs.RecordGrammar -- which texts are records

The grammar of the records of networks with addresses, as relations between a trimmed text and the
record that it denotes:

* a socket is an IPv4 address, a colon and a port, or an IPv6 address in brackets, perhaps with a
  numeric scope behind a percent sign, a colon and a port (`Socket.Written`).  Ports and scopes
  are decimal numbers that fit their words, and may have zeros in front;
* a bare address is one of either family, or one of IPv6 with a zone behind the first percent
  sign, which is any text but none (`ZonedIp.Written`).

The readers accept exactly what is written (`Record.read_follows_address_grammar`).  A text with
nothing but blanks is refused as empty, and any other with what trimming leaves of it.  Where a
zone is to blame, the address in front of it is one: an address with nothing behind its percent
sign, or one of IPv4 with something.
-/
import DialSelect.Proofs.AddressGrammar
import DialSelect.Proofs.ZoneText
import Mathlib.Data.List.TakeWhile

namespace DialSelect

set_option autoImplicit false

open Numeral (Denotes decimalDigits)

/-! ## Sockets -/

namespace Socket

/-- An IPv6 address, perhaps with a numeric scope; without one the scope is zero. -/
inductive WrittenScoped (text : List Char) (ip : Ipv6) : UInt32 → Prop where
  | plain (address : Ipv6.Written text ip) : WrittenScoped text ip 0
  | numbered {scope : UInt32} (front zone : List Char) (parts : text = front ++ '%' :: zone)
      (address : Ipv6.Written front ip) (number : Denotes decimalDigits 10 zone scope.toNat) :
      WrittenScoped text ip scope

/-- A socket: an address, in brackets if it is of IPv6, a colon and a port. -/
inductive Written (text : List Char) : Socket → Prop where
  | v4 {ip : Ipv4} {port : UInt16} (front back : List Char) (parts : text = front ++ ':' :: back)
      (address : Ipv4.Written front ip) (number : Denotes decimalDigits 10 back port.toNat) :
      Written text (.v4 ip port)
  | v6 {ip : Ipv6} {port : UInt16} {scope : UInt32} (inside back : List Char)
      (parts : text = '[' :: (inside ++ ']' :: ':' :: back))
      (address : WrittenScoped inside ip scope)
      (number : Denotes decimalDigits 10 back port.toNat) : Written text (.v6 ip port scope)

theorem port?_eq_some_iff {text : List Char} {port : UInt16} :
    port? text = some port ↔ Denotes decimalDigits 10 text port.toNat := by
  simp only [port?, Option.map_eq_some_iff, Numeral.decimalBelow?_eq_some_iff]
  exact Numeral.denotes_toNat_iff (fun n below => UInt16.toNat_ofNat_of_lt' below) port.toNat_lt
    UInt16.ofNat_toNat

theorem scopeNumber?_eq_some_iff {text : List Char} {scope : UInt32} :
    scopeNumber? text = some scope ↔ Denotes decimalDigits 10 text scope.toNat := by
  simp only [scopeNumber?, Option.map_eq_some_iff, Numeral.decimalBelow?_eq_some_iff]
  exact Numeral.denotes_toNat_iff (fun n below => UInt32.toNat_ofNat_of_lt' below) scope.toNat_lt
    UInt32.ofNat_toNat

theorem scopedIpv6?_eq_some_iff {text : List Char} {ip : Ipv6} {scope : UInt32} :
    scopedIpv6? text = some (ip, scope) ↔ WrittenScoped text ip scope := by
  unfold scopedIpv6?
  constructor
  · intro read
    split at read
    · obtain ⟨_, address, same⟩ := Option.map_eq_some_iff.1 read
      obtain ⟨rfl, rfl⟩ := Prod.mk.inj same
      exact .plain (Ipv6.read?_eq_some_iff.1 address)
    · rename_i front zone cut
      obtain ⟨_, address, read⟩ := Option.bind_eq_some_iff.1 read
      obtain ⟨_, number, same⟩ := Option.bind_eq_some_iff.1 read
      obtain ⟨rfl, rfl⟩ := Prod.mk.inj (Option.some.inj same)
      exact .numbered front zone (Text.eq_of_cut? cut).1 (Ipv6.read?_eq_some_iff.1 address)
        (scopeNumber?_eq_some_iff.1 number)
  · intro written
    have free {front : List Char} (address : Ipv6.Written front ip) : '%' ∉ front :=
      fun percent => absurd (address.subset percent) (by decide)
    cases written with
    | plain address =>
        rw [Text.cut?_eq_none (free address)]
        simp only [Ipv6.read?_eq_some_iff.2 address]
        rfl
    | numbered front zone parts address number =>
        rw [parts, Text.cut?_append (free address)]
        simp only [Ipv6.read?_eq_some_iff.2 address, scopeNumber?_eq_some_iff.2 number]
        rfl

/-- Nothing in an address with a scope closes its bracket. -/
theorem WrittenScoped.bracketFree {text : List Char} {ip : Ipv6} {scope : UInt32}
    (written : WrittenScoped text ip scope) : ']' ∉ text := by
  have free {front : List Char} (address : Ipv6.Written front ip) : ']' ∉ front :=
    fun bracket => absurd (address.subset bracket) (by decide)
  cases written with
  | plain address => exact free address
  | numbered front zone parts address number =>
      have digits : ']' ∉ zone := fun bracket => absurd (number.subset bracket) (by decide)
      rw [parts]
      exact List.not_mem_append (free address)
        (List.not_mem_cons_of_ne_of_not_mem (by decide) digits)

/-- **A socket is read exactly where one is written.** -/
theorem read?_eq_some_iff {text : List Char} {socket : Socket} :
    read? text = some socket ↔ Written text socket := by
  constructor
  · intro read
    unfold read? at read
    split at read
    · obtain ⟨⟨inside, behind⟩, cut, bracketed⟩ := Option.bind_eq_some_iff.1 read
      obtain ⟨⟨ip, scope⟩, address, closed⟩ := Option.bind_eq_some_iff.1 bracketed
      dsimp only at closed
      split at closed
      · obtain ⟨port, number, rfl⟩ := Option.map_eq_some_iff.1 closed
        exact .v6 inside _ (congrArg ('[' :: ·) (Text.eq_of_cut? cut).1)
          (scopedIpv6?_eq_some_iff.1 address) (port?_eq_some_iff.1 number)
      · cases closed
    · obtain ⟨⟨front, back⟩, cut, read⟩ := Option.bind_eq_some_iff.1 read
      obtain ⟨ip, address, read⟩ := Option.bind_eq_some_iff.1 read
      obtain ⟨port, number, same⟩ := Option.bind_eq_some_iff.1 read
      obtain rfl := Option.some.inj same
      exact .v4 front back (Text.eq_of_cut? cut).1 (Ipv4.read?_eq_some_iff.1 address)
        (port?_eq_some_iff.1 number)
  · intro written
    cases written with
    | v4 front back parts address number =>
        have free : ':' ∉ front := fun colon => absurd (address.subset colon) (by decide)
        have plain : text.head? ≠ some '[' := by
          intro bracket
          obtain ⟨c, rest, rfl⟩ := List.exists_cons_of_ne_nil address.ne_nil
          rw [parts] at bracket
          obtain rfl : c = '[' := Option.some.inj bracket
          exact absurd (address.subset List.mem_cons_self) (by decide)
        rw [read?_of_plain plain, parts, Text.cut?_append free]
        simp only [Option.bind_eq_bind, Option.bind_some, Ipv4.read?_eq_some_iff.2 address,
          port?_eq_some_iff.2 number]
        rfl
    | v6 inside back parts address number =>
        rw [parts, read?, Text.cut?_append address.bracketFree]
        simp only [Option.bind_eq_bind, Option.bind_some, scopedIpv6?_eq_some_iff.2 address,
          port?_eq_some_iff.2 number]
        rfl

end Socket

/-! ## Addresses with a zone -/

namespace ZonedIp

/-- A bare address: one of either family, or one of IPv6 and a zone, which is all that stands
behind the first percent sign. -/
inductive Written (text : List Char) : ZonedIp → Prop where
  | plain {ip : Ip} (address : Ip.Written text ip) : Written text ⟨ip, none⟩
  | zoned {ip : Ipv6} (front zone : List Char) (parts : text = front ++ '%' :: zone)
      (address : Ipv6.Written front ip) (nonempty : zone ≠ []) :
      Written text ⟨.v6 ip, some (String.ofList zone)⟩

/-- What is wrong with a text: there is no address in front of its first percent sign, or an
address and no zone behind it, or an address of IPv4 and a zone. -/
inductive Blames (text : List Char) : Fault → Prop where
  | notAnIp (unwritten : ∀ ip, ¬Ip.Written (text.takeWhile (· ≠ '%')) ip) : Blames text .notAnIp
  | emptyZone {ip : Ip} (front : List Char) (parts : text = front ++ ['%'])
      (address : Ip.Written front ip) : Blames text .emptyZone
  | zoneOnIpv4 {ip : Ipv4} (front zone : List Char) (parts : text = front ++ '%' :: zone)
      (nonempty : zone ≠ []) (address : Ipv4.Written front ip) : Blames text .zoneOnIpv4

theorem percentFree {text : List Char} {ip : Ip} (address : Ip.Written text ip) : '%' ∉ text :=
  fun percent => absurd (address.subset percent) (by decide)

/-- What stands in front of the first percent sign, if there is one. -/
theorem takeWhile_eq {front zone : List Char} (free : '%' ∉ front) :
    (front ++ '%' :: zone).takeWhile (· ≠ '%') = front := by
  have each : ∀ c ∈ front, decide (c ≠ '%') = true := fun c member =>
    decide_eq_true fun same => free (same ▸ member)
  rw [List.takeWhile_append_of_pos each, List.takeWhile_cons_of_neg (by decide), List.append_nil]

theorem takeWhile_eq_self {text : List Char} (free : '%' ∉ text) :
    text.takeWhile (· ≠ '%') = text :=
  List.takeWhile_eq_self_iff.2 fun _ member => decide_eq_true fun same => free (same ▸ member)

theorem read_of_free {text : List Char} (free : '%' ∉ text) :
    read text = (Ip.read? text).elim (.error .notAnIp) (fun ip => .ok ⟨ip, none⟩) := by
  rw [read, Text.cut?_eq_none free]
  cases Ip.read? text <;> rfl

/-- What stands behind the first percent sign is attached to the address in front of it. -/
theorem read_append {front : List Char} (free : '%' ∉ front) (zone : List Char) :
    read (front ++ '%' :: zone) = (Ip.read? front).elim (.error .notAnIp) (attach zone) := by
  rw [read, Text.cut?_append free]
  dsimp only
  cases Ip.read? front <;> rfl

theorem attach_eq_error_iff {zone : List Char} {ip : Ip} {fault : Fault} :
    attach zone ip = .error fault ↔
      zone = [] ∧ fault = .emptyZone ∨ zone ≠ [] ∧ ip.family = .v4 ∧ fault = .zoneOnIpv4 := by
  unfold attach
  cases zone with
  | nil => simp [eq_comm]
  | cons c rest =>
      cases ip with
      | v4 ip => simp [Ip.family, eq_comm]
      | v6 ip => simp [Ip.family]

/-- **A bare address is read exactly where one is written.** -/
theorem read_eq_ok_iff {text : List Char} {record : ZonedIp} :
    read text = .ok record ↔ Written text record := by
  constructor
  · intro accepted
    unfold read at accepted
    split at accepted
    · split at accepted
      · cases accepted
      · rename_i ip address
        obtain rfl := Except.ok.inj accepted
        exact .plain (Ip.read?_eq_some_iff.1 address)
    · rename_i front zone cut
      split at accepted
      · cases accepted
      · rename_i ip address
        obtain ⟨nonempty, six, rfl⟩ := attach_eq_ok_iff.1 accepted
        cases Ip.read?_eq_some_iff.1 address with
        | v4 written => cases six
        | v6 written => exact .zoned front zone (Text.eq_of_cut? cut).1 written nonempty
  · intro written
    cases written with
    | plain address =>
        rw [read_of_free (percentFree address), Ip.read?_eq_some_iff.2 address]
        rfl
    | @zoned ip front zone parts six nonempty =>
        have address : Ip.Written front (.v6 ip) := .v6 six
        rw [parts, read_append (percentFree address), Ip.read?_eq_some_iff.2 address,
          Option.elim_some]
        exact attach_eq_ok_iff.2 ⟨nonempty, rfl, rfl⟩

/-- A text is refused for what is wrong with it. -/
theorem read_eq_error_iff {text : List Char} {fault : Fault} :
    read text = .error fault ↔ Blames text fault := by
  have noAddress {front : List Char} : Ip.read? front = none ↔ ∀ ip, ¬Ip.Written front ip := by
    simp only [Option.eq_none_iff_forall_ne_some, ne_eq, Ip.read?_eq_some_iff]
  constructor
  · intro refused
    by_cases percent : '%' ∈ text
    · obtain ⟨front, zone, rfl, free⟩ := List.eq_append_cons_of_mem percent
      rw [read_append free] at refused
      cases address : Ip.read? front with
      | none =>
          rw [address] at refused
          obtain rfl := Except.error.inj refused
          exact .notAnIp (by rw [takeWhile_eq free]; exact noAddress.1 address)
      | some ip =>
          rw [address] at refused
          have written := Ip.read?_eq_some_iff.1 address
          rcases attach_eq_error_iff.1 refused with ⟨rfl, rfl⟩ | ⟨nonempty, four, rfl⟩
          · exact .emptyZone front rfl written
          · cases written with
            | v4 written => exact .zoneOnIpv4 front zone rfl nonempty written
            | v6 written => cases four
    · rw [read_of_free percent] at refused
      cases address : Ip.read? text with
      | none =>
          rw [address] at refused
          obtain rfl := Except.error.inj refused
          exact .notAnIp (by rw [takeWhile_eq_self percent]; exact noAddress.1 address)
      | some ip =>
          rw [address] at refused
          cases refused
  · intro blames
    cases blames with
    | notAnIp unwritten =>
        by_cases percent : '%' ∈ text
        · obtain ⟨front, zone, rfl, free⟩ := List.eq_append_cons_of_mem percent
          rw [takeWhile_eq free] at unwritten
          rw [read_append free, noAddress.2 unwritten]
          rfl
        · rw [takeWhile_eq_self percent] at unwritten
          rw [read_of_free percent, noAddress.2 unwritten]
          rfl
    | emptyZone front parts address =>
        rw [parts, read_append (percentFree address), Ip.read?_eq_some_iff.2 address]
        exact attach_eq_error_iff.2 (.inl ⟨rfl, rfl⟩)
    | @zoneOnIpv4 ip front zone parts nonempty four =>
        have address : Ip.Written front (.v4 ip) := .v4 four
        rw [parts, read_append (percentFree address), Ip.read?_eq_some_iff.2 address,
          Option.elim_some]
        exact attach_eq_error_iff.2 (.inr ⟨nonempty, rfl, rfl⟩)

end ZonedIp

/-! ## Records -/

theorem AddressFault.message_injective {fault other : AddressFault}
    (same : fault.message = other.message) : fault = other := by
  rcases fault with _ | (_ | _ | _) <;> rcases other with _ | (_ | _ | _) <;>
    first | rfl | exact absurd same (by decide)

namespace Record

/-- A reader obeys a grammar at a text: it accepts what is written between the blanks, and refuses
all else, as empty where there is nothing but blanks, and otherwise with what is between them. -/
structure Obeys (network : Network) (written : List Char → network.Record → Prop)
    (text : String) : Prop where
  accepted : ∀ record, read network text = .ok record ↔ written (Text.trim text.toList) record
  empty : read network text = .error (.empty network) ↔ Text.trim text.toList = []
  refused : (∃ fault, read network text =
      .error (.invalid network (String.ofList (Text.trim text.toList)) fault)) ↔
    Text.trim text.toList ≠ [] ∧ ∀ record, ¬written (Text.trim text.toList) record

/-- What a reader says of a trimmed text that it refuses. -/
def Refusal (network : Network) (text : List Char) (error : AddressError) : Prop :=
  text = [] ∧ error = .empty network ∨
    text ≠ [] ∧ ∃ fault, error = .invalid network (String.ofList text) fault

/-- A reader that accepts what is written, which is never nothing, obeys the grammar if it says
no more of the rest. -/
theorem Obeys.of_refusal {network : Network} {written : List Char → network.Record → Prop}
    {text : String} (nothing : ∀ record, ¬written [] record)
    (accepted : ∀ record, read network text = .ok record ↔ written (Text.trim text.toList) record)
    (refusal : ∀ error, read network text = .error error →
      Refusal network (Text.trim text.toList) error) :
    Obeys network written text := by
  refine ⟨accepted, ⟨fun refused => ?_, fun blank => ?_⟩,
    ⟨fun ⟨fault, refused⟩ => ⟨?_, fun record here => ?_⟩, fun ⟨nonempty, unwritten⟩ => ?_⟩⟩
  · rcases refusal _ refused with ⟨blank, -⟩ | ⟨-, fault, other⟩
    · exact blank
    · cases other
  · cases outcome : read network text with
    | ok record => exact absurd ((accepted record).1 outcome) (blank ▸ nothing record)
    | error error =>
        rcases refusal error outcome with ⟨-, rfl⟩ | ⟨nonempty, -⟩
        · rfl
        · exact absurd blank nonempty
  · rcases refusal _ refused with ⟨-, other⟩ | ⟨nonempty, -⟩
    · cases other
    · exact nonempty
  · rw [(accepted record).2 here] at refused
    cases refused
  · cases outcome : read network text with
    | ok record => exact absurd ((accepted record).1 outcome) (unwritten record)
    | error error =>
        rcases refusal error outcome with ⟨blank, -⟩ | ⟨-, fault, rfl⟩
        · exact absurd blank nonempty
        · exact ⟨fault, rfl⟩

theorem readSocket_eq_ok_iff {network : Network} {text : List Char} {socket : Socket} :
    readSocket network text = .ok socket ↔ Socket.Written text socket := by
  rw [← Socket.read?_eq_some_iff]
  unfold readSocket
  cases text with
  | nil => simp [Socket.read?, Text.cut?]
  | cons c rest => cases Socket.read? (c :: rest) <;> simp

theorem refusal_readSocket {network : Network} {text : List Char} {error : AddressError}
    (refused : readSocket network text = .error error) : Refusal network text error := by
  unfold readSocket at refused
  cases text with
  | nil => exact .inl ⟨rfl, (Except.error.inj refused).symm⟩
  | cons c rest =>
      refine .inr ⟨List.cons_ne_nil c rest, .notASocket, ?_⟩
      rw [if_neg (by simp)] at refused
      split at refused
      · cases refused
      · exact (Except.error.inj refused).symm

theorem readZonedIp_eq_error_iff {text : List Char} {error : AddressError} :
    readZonedIp text = .error error ↔ text = [] ∧ error = .empty .ip ∨
      text ≠ [] ∧ ∃ fault, ZonedIp.Blames text fault ∧
        error = .invalid .ip (String.ofList text) (.zoned fault) := by
  simp only [← ZonedIp.read_eq_error_iff]
  unfold readZonedIp
  cases text with
  | nil => simp [eq_comm]
  | cons c rest => cases ZonedIp.read (c :: rest) <;> simp [eq_comm]

theorem refusal_readZonedIp {text : List Char} {error : AddressError}
    (refused : readZonedIp text = .error error) : Refusal .ip text error := by
  rcases readZonedIp_eq_error_iff.1 refused with blank | ⟨nonempty, fault, -, worded⟩
  · exact .inl blank
  · exact .inr ⟨nonempty, .zoned fault, worded⟩

/-- A bare address is refused in the words of the fault that its text has. -/
theorem refused_for_iff {text : String} (fault : ZonedIp.Fault) :
    (∃ worded, read .ip text =
        .error (.invalid .ip (String.ofList (Text.trim text.toList)) worded) ∧
      worded.message = (AddressFault.zoned fault).message) ↔
    Text.trim text.toList ≠ [] ∧ ZonedIp.Blames (Text.trim text.toList) fault := by
  constructor
  · rintro ⟨worded, refused, same⟩
    obtain rfl := AddressFault.message_injective same
    rcases readZonedIp_eq_error_iff.1 refused with ⟨-, other⟩ | ⟨nonempty, blamed, blames, other⟩
    · cases other
    · obtain rfl : fault = blamed := by simpa using other
      exact ⟨nonempty, blames⟩
  · rintro ⟨nonempty, blames⟩
    exact ⟨_, readZonedIp_eq_error_iff.2 (.inr ⟨nonempty, fault, blames, rfl⟩), rfl⟩

theorem obeys_socket (text : String) :
    Obeys .tcp Socket.Written text ∧ Obeys .udp Socket.Written text := by
  have nothing : ∀ socket, ¬Socket.Written [] socket := by
    intro socket written
    cases written with
    | v4 front back parts => cases (List.append_eq_nil_iff.1 parts.symm).2
    | v6 inside back parts => cases parts
  exact ⟨.of_refusal nothing (fun socket => readSocket_eq_ok_iff) fun error => refusal_readSocket,
    .of_refusal nothing (fun socket => readSocket_eq_ok_iff) fun error => refusal_readSocket⟩

theorem obeys_zonedIp (text : String) : Obeys .ip ZonedIp.Written text := by
  have nothing : ∀ record, ¬ZonedIp.Written [] record := by
    intro record written
    cases ZonedIp.read_eq_ok_iff.2 written
  have accepted (kept : List Char) (record : ZonedIp) :
      readZonedIp kept = .ok record ↔ ZonedIp.Written kept record := by
    rw [readZonedIp_eq_ok_iff, ZonedIp.read_eq_ok_iff]
    exact and_iff_right_of_imp fun written blank => nothing record (blank ▸ written)
  exact .of_refusal nothing (accepted _) fun error => refusal_readZonedIp

/-- **The readers of records follow the grammar**, for every text: sockets over either network,
and bare addresses.  They accept what is written between the blanks around the text, with the
address, port, scope and zone that it denotes, and refuse the rest, as empty or with what is
between the blanks.

A bare address is refused for an empty zone exactly where nothing stands behind the percent sign
of an address, for a zone exactly where something stands behind that of an IPv4 address, and
otherwise because there is no address in front of its first percent sign. -/
theorem read_follows_address_grammar (text : String) :
    Obeys .tcp Socket.Written text ∧ Obeys .udp Socket.Written text ∧
    Obeys .ip ZonedIp.Written text ∧
    let kept := Text.trim text.toList
    let refusedFor (reason : String) := ∃ fault : AddressFault,
      read .ip text = .error (.invalid .ip (String.ofList kept) fault) ∧ fault.message = reason
    (refusedFor "empty zone" ↔ ∃ front ip, kept = front ++ ['%'] ∧ Ip.Written front ip) ∧
    (refusedFor "zones are only valid for IPv6" ↔ ∃ front zone ip,
      kept = front ++ '%' :: zone ∧ zone ≠ [] ∧ Ipv4.Written front ip) ∧
    (refusedFor "invalid IP address syntax" ↔
      kept ≠ [] ∧ ∀ ip, ¬Ip.Written (kept.takeWhile (· ≠ '%')) ip) := by
  obtain ⟨tcp, udp⟩ := obeys_socket text
  refine ⟨tcp, udp, obeys_zonedIp text, ?_, ?_, ?_⟩
  · refine Iff.trans (refused_for_iff .emptyZone) ⟨?_, ?_⟩
    · rintro ⟨-, blames⟩
      cases blames with
      | emptyZone front parts address => exact ⟨front, _, parts, address⟩
    · rintro ⟨front, ip, parts, address⟩
      exact ⟨by simp [parts], .emptyZone front parts address⟩
  · refine Iff.trans (refused_for_iff .zoneOnIpv4) ⟨?_, ?_⟩
    · rintro ⟨-, blames⟩
      cases blames with
      | zoneOnIpv4 front zone parts nonempty address =>
          exact ⟨front, zone, _, parts, nonempty, address⟩
    · rintro ⟨front, zone, ip, parts, nonempty, address⟩
      exact ⟨by simp [parts], .zoneOnIpv4 front zone parts nonempty address⟩
  · refine Iff.trans (refused_for_iff .notAnIp) (and_congr_right fun _ => ?_)
    refine ⟨fun blames => ?_, .notAnIp⟩
    cases blames with
    | notAnIp unwritten => exact unwritten

end Record

end DialSelect
