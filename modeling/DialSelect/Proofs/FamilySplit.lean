/-
# DialSelect.Proofs.FamilySplit -- two families, two rows

Where every record has a family, the positions of IPv4 and those of IPv6 are all positions, and
none is of both.  So the rules that leave one family split a collection in two rows: each record
is in one of them, where its order has it.  Nothing else is lost by the split, because the
families in sequence say from which row the next record comes (`Collection.weave`).

The reversal is its own inverse and does not matter to what is left of one family but for the
order (`Pick.families_split`); that also holds where records have no family.
-/
import DialSelect.Proofs.FirstRecords

namespace DialSelect

set_option autoImplicit false

variable {α : Type} {family : α → Option Family}

namespace Collection

/-- Where the records of a family stand. -/
def positionsOf (family : α → Option Family) (kind : Family) (records : List α) : List Nat :=
  (List.range records.length).filter (familyAt family records · = some kind)

/-- For each family in sequence the next record of its own row.  Nothing comes of it where a row
ends too early or is not used up, or where a family is missing. -/
def weave : List (Option Family) → List α → List α → Option (List α)
  | [], [], [] => some []
  | some .v4 :: families, record :: four, six => (weave families four six).map (record :: ·)
  | some .v6 :: families, four, record :: six => (weave families four six).map (record :: ·)
  | _, _, _ => none

/-- The records at the positions of a family are its records, in their order. -/
theorem gather_positionsOf (kind : Family) (records : List α) :
    gather records (positionsOf family kind records) =
      .ok (records.filter (family · = some kind)) := by
  let has (record : Option α) : Bool := record.bind family = some kind
  refine gather_eq_ok_iff.2 ?_
  calc (positionsOf family kind records).map (records[·]?)
      = ((List.range records.length).map (records[·]?)).filter has := by
        rw [List.filter_map]
        rfl
    _ = (records.filter (family · = some kind)).map some := by
        rw [map_getElem?_range, List.filter_map]
        rfl

/-- The records at all positions from the last to the first are the collection turned around. -/
theorem gather_reverse_range (records : List α) :
    gather records (List.range records.length).reverse = .ok records.reverse := by
  rw [gather_eq_ok_iff, List.map_reverse, map_getElem?_range, List.map_reverse]

theorem present_reverse (records : List α) :
    present records.reverse = (present records).map List.reverse := by
  unfold present
  rw [List.isEmpty_reverse]
  split <;> rfl

theorem presentCount_present (records : List α) :
    presentCount (present records) = records.length := by
  cases records <;> rfl

section Total

variable (total : ∀ record, (family record).isSome)
include total

/-- Every position is of one family and not of the other. -/
theorem positionsOf_append_perm (records : List α) :
    (positionsOf family .v4 records ++ positionsOf family .v6 records).Perm
      (List.range records.length) := by
  refine Share.filter_append_filter_perm fun index member => ?_
  have here : records[index]? = some _ := List.getElem?_eq_getElem (List.mem_range.1 member)
  rw [familyAt, here]
  exact total _

/-- The rows of the two families, taken from as the families come, are the collection. -/
theorem weave_filter (records : List α) :
    weave (records.map family) (records.filter (family · = some .v4))
      (records.filter (family · = some .v6)) = some records := by
  induction records with
  | nil => rfl
  | cons record rest ih =>
      obtain ⟨kind, has⟩ := Option.isSome_iff_exists.1 (total record)
      cases kind <;> simp [weave, has, ih]

end Total

end Collection

/-- Only an address of the family has as many octets. -/
theorem Record.length_octets_of_family {network : Network} {record : network.Record} {kind : Family}
    (has : family? network record = some kind) :
    (octets network record).length = kind.octetCount := by
  rw [← Family.ofOctetCount?_eq_some_iff, ofOctetCount?_octets, has]

namespace Pick

open Collection (positionsOf weave)

theorem apply_only (kind : Family) (records : List α) :
    apply family (.only kind) (some records) =
      Collection.present (records.filter (family · = some kind)) := rfl

theorem apply_reverse (value : Option (List α)) :
    apply family .reverse value = value.map List.reverse := by
  cases value <;> rfl

theorem only_reverse (kind : Family) (value : Option (List α)) :
    apply family (.only kind) (apply family .reverse value) =
      apply family .reverse (apply family (.only kind) value) := by
  cases value with
  | none => rfl
  | some records =>
      rw [apply_reverse, apply_reverse, Option.map_some, apply_only, apply_only,
        List.filter_reverse, Collection.present_reverse]

/-- **The families split a collection, and turning it around changes nothing about that.**  Over a
network with addresses, what is left of IPv4 and what is left of IPv6 are collected at positions
that go upwards and are all positions, each once.  So they are as many records as there were;
those of the one have four octets and those of the other sixteen; and taken from as the families
come, they are the collection again.

Over every network, to turn a collection around twice is to leave it, and to turn around what is
left of a family is to leave that family of the collection turned around.  The reversal of two
records or more is what is collected from the last position to the first. -/
theorem families_split (network : Network) :
    let family := Record.family? network
    (network.hasIp → ∀ records : List network.Record,
      let four := apply family (.only .v4) (some records)
      let six := apply family (.only .v6) (some records)
      (∃ at4 at6 : List Nat, at4.Pairwise (· < ·) ∧ at6.Pairwise (· < ·) ∧
        (at4 ++ at6).Perm (List.range records.length) ∧
        Collection.collect records none at4 = .ok four ∧
        Collection.collect records none at6 = .ok six) ∧
      presentCount four + presentCount six = records.length ∧
      (∀ record ∈ four.getD [], (Record.octets network record).length = 4) ∧
      (∀ record ∈ six.getD [], (Record.octets network record).length = 16) ∧
      weave (records.map family) (four.getD []) (six.getD []) = some records) ∧
    ∀ value : Option (List network.Record),
      apply family .reverse (apply family .reverse value) = value ∧
      (∀ kind, apply family (.only kind) (apply family .reverse value) =
        apply family .reverse (apply family (.only kind) value)) ∧
      ∀ records, value = some records → 2 ≤ records.length →
        Collection.collect records none (List.range records.length).reverse =
          .ok (apply family .reverse value) := by
  intro family
  refine ⟨fun ip records => ?_, fun value => ⟨?_, fun kind => only_reverse kind value, ?_⟩⟩
  · intro four six
    have total : ∀ record, (family record).isSome := Record.family?_isSome ip
    have upwards (kind : Family) : (positionsOf family kind records).Pairwise (· < ·) :=
      List.pairwise_lt_range.sublist List.filter_sublist
    have collected (kind : Family) :
        Collection.collect records none (positionsOf family kind records) =
          .ok (apply family (.only kind) (some records)) := by
      rw [Collection.collect_none, Collection.gather_positionsOf, apply_only]
      rfl
    have octets (kind : Family) :
        ∀ record ∈ (apply family (.only kind) (some records)).getD [],
          (Record.octets network record).length = kind.octetCount := by
      intro record member
      rw [apply_only, Collection.getD_present] at member
      exact Record.length_octets_of_family (of_decide_eq_true (List.mem_filter.1 member).2)
    refine ⟨⟨_, _, upwards .v4, upwards .v6, Collection.positionsOf_append_perm total records,
      collected .v4, collected .v6⟩, ?_, octets .v4, octets .v6, ?_⟩
    · simp only [four, six, apply_only, Collection.presentCount_present,
        ← List.countP_eq_length_filter]
      exact Share.count_add_count total records
    · simp only [four, six, apply_only, Collection.getD_present]
      exact Collection.weave_filter total records
  · rw [apply_reverse, apply_reverse, Option.map_map]
    cases value with
    | none => rfl
    | some records => exact congrArg some records.reverse_reverse
  · rintro records rfl long
    have nonempty : records.reverse ≠ [] := by
      rw [Ne, List.reverse_eq_nil_iff]
      exact List.ne_nil_of_length_pos (Nat.lt_of_lt_of_le (by decide) long)
    rw [Collection.collect_none, Collection.gather_reverse_range]
    exact congrArg Except.ok (Collection.present_eq_some_iff.2 ⟨rfl, nonempty⟩)

/-- Two sockets of IPv4 around one of IPv6. -/
theorem families_split_around :
    let family := Record.family? .tcp
    let four := apply family (.only .v4) (some Collection.sockets)
    let six := apply family (.only .v6) (some Collection.sockets)
    let web := Socket.v4 ⟨192, 0, 2, 1⟩ 80
    let other := Socket.v6 ⟨[0x2001, 0xDB8, 0, 0, 0, 0, 0, 1], rfl⟩ 443 0
    Network.tcp.hasIp ∧ 2 ≤ Collection.sockets.length ∧
    web ∈ four.getD [] ∧ (Record.octets .tcp web).length = 4 ∧
    other ∈ six.getD [] ∧ (Record.octets .tcp other).length = 16 ∧
    presentCount four + presentCount six = 3 ∧
    weave [some .v4, some .v6, some .v4] (four.getD []) (six.getD []) = some Collection.sockets ∧
    Collection.collect Collection.sockets none [2, 1, 0] =
      .ok (apply family .reverse (some Collection.sockets)) := by
  intro family four six web other
  have ip : Network.tcp.hasIp := rfl
  have long : 2 ≤ Collection.sockets.length := by decide
  have inFour : web ∈ four.getD [] := List.mem_cons_self
  have inSix : other ∈ six.getD [] := List.mem_cons_self
  obtain ⟨split, turned⟩ := families_split .tcp
  obtain ⟨-, count, short, wide, woven⟩ := split ip Collection.sockets
  obtain ⟨-, -, collected⟩ := turned (some Collection.sockets)
  exact ⟨ip, long, inFour, short web inFour, inSix, wide other inSix, count, woven,
    collected _ rfl long⟩

end Pick

end DialSelect
