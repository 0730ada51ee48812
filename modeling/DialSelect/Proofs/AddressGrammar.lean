/-
# DialSelect.Proofs.AddressGrammar -- which texts are addresses

The grammar of addresses, as relations between a text and what it denotes:

* IPv4 is four octets with dots between them, each a decimal number of at most three digits
  without a zero in front (`Ipv4.Written`);
* a group is one to four hexadecimal digits of either case.  IPv6 is eight groups with single
  colons between them, or fewer around one `::` that stands for the zero groups that are
  missing, at least one.  A dotted quad may stand for the last two groups of the text
  (`Ipv6.Written`).

The readers accept exactly what is written, and find what is denoted.  To read the fields of a
text is to have its parts, because no part has the separator in it.  The first `::` is the one
that the grammar means, because groups with single colons between them have none.  And no text is
of both families, because every IPv6 text has a colon (`Ip.read?_eq_some_iff`).
-/
import DialSelect.Proofs.IpText
import DialSelect.Proofs.Positional

namespace DialSelect

set_option autoImplicit false

open Numeral (Denotes decimalDigits hexDigits)

/-! ## Dotted quads -/

/-- A part of a dotted quad: a decimal number of at most three digits, without a zero in front. -/
structure WrittenOctet (text : List Char) (octet : UInt8) : Prop where
  denotes : Denotes decimalDigits 10 text octet.toNat
  short : text.length ≤ 3
  plain : text.head? = some '0' → text = ['0']

theorem octet?_eq_some_iff {text : List Char} {octet : UInt8} :
    octet? text = some octet ↔ WrittenOctet text octet := by
  have number : (Numeral.decimalBelow? 256 text).map UInt8.ofNat = some octet ↔
      Denotes decimalDigits 10 text octet.toNat := by
    simp only [Option.map_eq_some_iff, Numeral.decimalBelow?_eq_some_iff]
    exact Numeral.denotes_toNat_iff (fun n below => UInt8.toNat_ofNat_of_lt' below)
      octet.toNat_lt UInt8.ofNat_toNat
  have zero : (text.head? = some '0' → text.length = 1) ↔
      (text.head? = some '0' → text = ['0']) := by
    refine forall_congr' fun lead => ?_
    obtain ⟨rest, rfl⟩ := List.head?_eq_some_iff.1 lead
    simp
  rw [octet?, Option.ite_none_right_eq_some, number, zero]
  constructor
  · rintro ⟨⟨short, plain⟩, denotes⟩
    exact ⟨denotes, short, plain⟩
  · rintro ⟨denotes, short, plain⟩
    exact ⟨⟨short, plain⟩, denotes⟩

namespace Ipv4

/-- A dotted quad: four octets with dots between them. -/
inductive Written (text : List Char) (ip : Ipv4) : Prop where
  | intro (parts : List (List Char)) (dotted : text = Text.joinWith ['.'] parts)
      (each : List.Forall₂ WrittenOctet parts ip.octets)

theorem read?_eq_some_iff {text : List Char} {ip : Ipv4} :
    read? text = some ip ↔ Written text ip := by
  constructor
  · intro read
    unfold read? at read
    split at read
    · rename_i a b c d parts
      obtain ⟨octetA, readA, read⟩ := Option.bind_eq_some_iff.1 read
      obtain ⟨octetB, readB, read⟩ := Option.bind_eq_some_iff.1 read
      obtain ⟨octetC, readC, read⟩ := Option.bind_eq_some_iff.1 read
      obtain ⟨octetD, readD, read⟩ := Option.bind_eq_some_iff.1 read
      obtain rfl := Option.some.inj read
      refine ⟨[a, b, c, d], by rw [← parts, Text.joinWith_fields], ?_⟩
      exact .cons (octet?_eq_some_iff.1 readA) (.cons (octet?_eq_some_iff.1 readB)
        (.cons (octet?_eq_some_iff.1 readC) (.cons (octet?_eq_some_iff.1 readD) .nil)))
    · cases read
  · rintro ⟨parts, rfl, each⟩
    have free : ∀ part ∈ parts, '.' ∉ part :=
      forall_mem_of_each each fun part octet written dot =>
        absurd (written.denotes.subset dot) (by decide)
    cases each with
    | cons a each => cases each with
      | cons b each => cases each with
        | cons c each => cases each with
          | cons d each => cases each with
            | nil =>
                rw [read?, Text.fields_joinWith (List.cons_ne_nil _ _) free]
                simp only [octet?_eq_some_iff.2 a, octet?_eq_some_iff.2 b, octet?_eq_some_iff.2 c,
                  octet?_eq_some_iff.2 d]
                rfl

theorem Written.subset {text : List Char} {ip : Ipv4} (written : Written text ip) :
    text ⊆ '.' :: decimalDigits.map Prod.fst := by
  obtain ⟨parts, rfl, each⟩ := written
  refine Text.joinWith_subset (by decide) (forall_mem_of_each each fun part octet written => ?_)
  exact List.subset_cons_of_subset '.' written.denotes.subset

theorem Written.ne_nil {text : List Char} {ip : Ipv4} (written : Written text ip) : text ≠ [] := by
  rintro rfl
  cases read?_eq_some_iff.2 written

end Ipv4

/-! ## Groups -/

/-- A group: a hexadecimal number of at most four digits. -/
structure WrittenGroup (text : List Char) (group : UInt16) : Prop where
  denotes : Denotes hexDigits 16 text group.toNat
  short : text.length ≤ 4

/-- Groups with single colons between them; where there is none, nothing is written. -/
inductive WrittenGroups (text : List Char) (groups : List UInt16) : Prop where
  | intro (parts : List (List Char)) (joined : text = Text.joinWith [':'] parts)
      (each : List.Forall₂ WrittenGroup parts groups)

/-- The parts at the end of an address: groups, and perhaps a dotted quad for the last two. -/
inductive WrittenParts : List (List Char) → List UInt16 → Prop where
  | nil : WrittenParts [] []
  | quad {part : List Char} {quad : Ipv4} (written : Ipv4.Written part quad) :
      WrittenParts [part] [quad.high, quad.low]
  | group {part : List Char} {parts : List (List Char)} {group : UInt16} {groups : List UInt16}
      (written : WrittenGroup part group) (others : WrittenParts parts groups) :
      WrittenParts (part :: parts) (group :: groups)

/-- Groups at the end of an address, with single colons between their parts. -/
inductive WrittenEnd (text : List Char) (groups : List UInt16) : Prop where
  | intro (parts : List (List Char)) (joined : text = Text.joinWith [':'] parts)
      (each : WrittenParts parts groups)

theorem group?_eq_some_iff {text : List Char} {group : UInt16} :
    group? text = some group ↔ WrittenGroup text group := by
  have small : ∀ entry ∈ hexDigits, entry.2 < 16 := by decide
  have number : (Numeral.digits? Numeral.hexDigit? 16 text).map UInt16.ofNat = some group ↔
      ∃ n, Denotes hexDigits 16 text n ∧ UInt16.ofNat n = group := by
    simp only [Option.map_eq_some_iff, Numeral.digits?_eq_some_iff Numeral.hexDigit?_eq_some_iff]
  rw [group?, Option.ite_none_right_eq_some, number]
  constructor
  · rintro ⟨short, n, denotes, rfl⟩
    have below : n < 2 ^ 16 := by
      refine Nat.lt_of_lt_of_le (denotes.lt_pow small (by decide)) ?_
      exact Nat.pow_le_pow_right (by decide) short
    refine ⟨?_, short⟩
    rw [UInt16.toNat_ofNat_of_lt' below]
    exact denotes
  · rintro ⟨denotes, short⟩
    exact ⟨short, group.toNat, denotes, UInt16.ofNat_toNat⟩

theorem WrittenGroup.subset {text : List Char} {group : UInt16} (written : WrittenGroup text group) :
    text ⊆ hexDigits.map Prod.fst :=
  written.denotes.subset

/-- The parts of groups are not empty and have no colon, so that they are the fields of what is
joined by colons. -/
theorem WrittenGroup.whole {text : List Char} {group : UInt16} (written : WrittenGroup text group) :
    text ≠ [] ∧ ':' ∉ text :=
  ⟨written.denotes.ne_nil, fun colon => absurd (written.subset colon) (by decide)⟩

theorem Ipv4.Written.whole {text : List Char} {ip : Ipv4} (written : Written text ip) :
    text ≠ [] ∧ ':' ∉ text :=
  ⟨written.ne_nil, fun colon => absurd (written.subset colon) (by decide)⟩

theorem groups?_eq_some_iff {fields : List (List Char)} {groups : List UInt16} :
    groups? fields = some groups ↔ List.Forall₂ WrittenGroup fields groups := by
  induction fields generalizing groups with
  | nil =>
      rw [groups?, Option.some.injEq, List.forall₂_nil_left_iff, eq_comm]
  | cons field others ih =>
      rw [groups?, List.forall₂_cons_left_iff]
      simp only [Option.bind_eq_bind, Option.bind_eq_some_iff, group?_eq_some_iff, ih]
      constructor
      · rintro ⟨group, here, rest, later, built⟩
        exact ⟨group, rest, here, later, (Option.some.inj built).symm⟩
      · rintro ⟨group, rest, here, later, rfl⟩
        exact ⟨group, here, rest, later, rfl⟩

theorem WrittenGroup.read?_eq_none {text : List Char} {group : UInt16}
    (written : WrittenGroup text group) : Ipv4.read? text = none := by
  have free : '.' ∉ text := fun dot => absurd (written.subset dot) (by decide)
  rw [Ipv4.read?, Text.fields_of_free free]

theorem groupsOrQuad?_eq_some_iff {fields : List (List Char)} {groups : List UInt16} :
    groupsOrQuad? fields = some groups ↔ WrittenParts fields groups := by
  induction fields generalizing groups with
  | nil =>
      constructor
      · rintro ⟨⟩
        exact .nil
      · rintro ⟨⟩
        rfl
  | cons field others ih =>
      cases others with
      | nil =>
          rw [groupsOrQuad?]
          constructor
          · intro read
            split at read
            · rename_i quad isQuad
              obtain rfl := Option.some.inj read
              exact .quad (Ipv4.read?_eq_some_iff.1 isQuad)
            · obtain ⟨group, here, rfl⟩ := Option.map_eq_some_iff.1 read
              exact .group (group?_eq_some_iff.1 here) .nil
          · intro written
            cases written with
            | quad written => rw [Ipv4.read?_eq_some_iff.2 written]
            | group written others =>
                cases others
                rw [written.read?_eq_none, group?_eq_some_iff.2 written]
                rfl
      | cons next later =>
          rw [groupsOrQuad?]
          · simp only [Option.bind_eq_bind, Option.bind_eq_some_iff, group?_eq_some_iff, ih]
            constructor
            · rintro ⟨group, here, rest, written, built⟩
              obtain rfl := Option.some.inj built
              exact .group here written
            · intro written
              cases written with
              | group here written => exact ⟨_, here, _, written, rfl⟩
          · exact List.cons_ne_nil next later

/-- The parts at the end of an address are not empty and have no colon. -/
theorem WrittenParts.whole {parts : List (List Char)} {groups : List UInt16}
    (written : WrittenParts parts groups) : ∀ part ∈ parts, part ≠ [] ∧ ':' ∉ part := by
  induction written with
  | nil => exact nofun
  | quad written =>
      intro part member
      obtain rfl := List.mem_singleton.1 member
      exact written.whole
  | group written _ ih => exact List.forall_mem_cons.2 ⟨written.whole, ih⟩

/-- They are at most one fewer than the groups. -/
theorem WrittenParts.length_le {parts : List (List Char)} {groups : List UInt16}
    (written : WrittenParts parts groups) : groups.length ≤ parts.length + 1 := by
  induction written with
  | nil => decide
  | quad written => exact Nat.le_refl 2
  | group written _ ih => exact Nat.succ_le_succ ih

/-! ## Sides of `::` -/

/-- Cutting at colons, and joining by colons what was cut; of nothing there are no fields. -/
theorem joinWith_colonFields (text : List Char) :
    Text.joinWith [':'] (colonFields text) = text := by
  cases text with
  | nil => rfl
  | cons c rest => exact Text.joinWith_fields (c :: rest)

theorem groups?_colonFields_iff {text : List Char} {groups : List UInt16} :
    groups? (colonFields text) = some groups ↔ WrittenGroups text groups := by
  rw [groups?_eq_some_iff]
  constructor
  · exact fun each => ⟨colonFields text, (joinWith_colonFields text).symm, each⟩
  · rintro ⟨parts, rfl, each⟩
    rw [colonFields_joinWith (forall_mem_of_each each fun part group written => written.whole)]
    exact each

theorem groupsOrQuad?_colonFields_iff {text : List Char} {groups : List UInt16} :
    groupsOrQuad? (colonFields text) = some groups ↔ WrittenEnd text groups := by
  rw [groupsOrQuad?_eq_some_iff]
  constructor
  · exact fun each => ⟨colonFields text, (joinWith_colonFields text).symm, each⟩
  · rintro ⟨parts, rfl, each⟩
    rw [colonFields_joinWith each.whole]
    exact each

theorem eq_of_cutDoubleColon? {text front back : List Char}
    (cut : cutDoubleColon? text = some (front, back)) : text = front ++ ':' :: ':' :: back := by
  fun_induction cutDoubleColon? text generalizing front with
  | case1 rest =>
      obtain ⟨rfl, rfl⟩ := Prod.mk.inj (Option.some.inj cut)
      rfl
  | case2 c rest _ ih =>
      obtain ⟨⟨before, after⟩, inner, outer⟩ := Option.map_eq_some_iff.1 cut
      obtain ⟨rfl, rfl⟩ := Prod.mk.inj outer
      exact congrArg (c :: ·) (ih inner)
  | case3 => cases cut

/-- Groups with single colons between them end in front of a `::`. -/
theorem WrittenGroups.cutDoubleColon? {front : List Char} {groups : List UInt16}
    (written : WrittenGroups front groups) (back : List Char) :
    cutDoubleColon? (front ++ ':' :: ':' :: back) = some (front, back) := by
  obtain ⟨parts, rfl, each⟩ := written
  have whole := forall_mem_of_each each fun part group (written : WrittenGroup part group) =>
    written.whole
  rw [cutDoubleColon?_joinWith whole, DialSelect.cutDoubleColon?, Option.map_some, List.append_nil]

theorem WrittenEnd.cutDoubleColon?_eq_none {text : List Char} {groups : List UInt16}
    (written : WrittenEnd text groups) : cutDoubleColon? text = none := by
  obtain ⟨parts, rfl, each⟩ := written
  have step := cutDoubleColon?_joinWith each.whole []
  rw [List.append_nil] at step
  exact step

namespace Ipv6

/-- An IPv6 address: eight groups, or groups around `::` with zeros in its place. -/
inductive Written (text : List Char) (ip : Ipv6) : Prop where
  | whole (written : WrittenEnd text ip.groups)
  | short (front back : List Char) (before after : List UInt16) (zeros : Nat)
      (parts : text = front ++ ':' :: ':' :: back) (left : WrittenGroups front before)
      (right : WrittenEnd back after) (missing : 0 < zeros)
      (groups : ip.groups = before ++ List.replicate zeros 0 ++ after)

theorem ofGroups?_eq_some_iff {groups : List UInt16} {ip : Ipv6} :
    ofGroups? groups = some ip ↔ groups = ip.groups := by
  constructor
  · intro built
    obtain ⟨eight, same⟩ := Option.dite_none_right_eq_some.1 built
    exact congrArg Ipv6.groups (Option.some.inj same)
  · rintro rfl
    exact ofGroups?_groups ip

/-- An address with a `::` is read as the zeros in its place have it. -/
theorem ofGroups?_around_iff {before after : List UInt16} {ip : Ipv6} :
    (if before.length + after.length ≤ 7 then
      ofGroups? (before ++ List.replicate (8 - (before.length + after.length)) 0 ++ after)
    else none) = some ip ↔
      ∃ zeros, 0 < zeros ∧ ip.groups = before ++ List.replicate zeros 0 ++ after := by
  rw [Option.ite_none_right_eq_some, ofGroups?_eq_some_iff]
  constructor
  · rintro ⟨room, groups⟩
    exact ⟨_, by omega, groups.symm⟩
  · rintro ⟨zeros, missing, groups⟩
    have lengths := congrArg List.length groups
    rw [ip.eight, List.length_append, List.length_append, List.length_replicate] at lengths
    obtain rfl : zeros = 8 - (before.length + after.length) := by omega
    exact ⟨by omega, groups.symm⟩

/-- **An IPv6 address is read exactly where one is written.** -/
theorem read?_eq_some_iff {text : List Char} {ip : Ipv6} :
    read? text = some ip ↔ Written text ip := by
  constructor
  · intro read
    unfold read? at read
    split at read
    · obtain ⟨groups, ended, built⟩ := Option.bind_eq_some_iff.1 read
      obtain rfl := ofGroups?_eq_some_iff.1 built
      exact .whole ⟨_, (Text.joinWith_fields text).symm, groupsOrQuad?_eq_some_iff.1 ended⟩
    · rename_i front back cut
      obtain ⟨before, left, read⟩ := Option.bind_eq_some_iff.1 read
      obtain ⟨after, right, built⟩ := Option.bind_eq_some_iff.1 read
      obtain ⟨zeros, missing, groups⟩ := ofGroups?_around_iff.1 built
      exact .short front back before after zeros (eq_of_cutDoubleColon? cut)
        (groups?_colonFields_iff.1 left) (groupsOrQuad?_colonFields_iff.1 right) missing groups
  · intro written
    cases written with
    | whole written =>
        have begun : text ≠ [] := by
          rintro rfl
          have empty := groupsOrQuad?_colonFields_iff.2 written
          have eight := ip.eight
          rw [← Option.some.inj empty] at eight
          cases eight
        have fields : Text.fields ':' text = colonFields text := by
          cases text with
          | nil => exact absurd rfl begun
          | cons c rest => rfl
        rw [read?, written.cutDoubleColon?_eq_none]
        simp only [fields, groupsOrQuad?_colonFields_iff.2 written]
        exact ofGroups?_groups ip
    | short front back before after zeros parts left right missing groups =>
        rw [read?, parts, left.cutDoubleColon?]
        simp only [groups?_colonFields_iff.2 left, groupsOrQuad?_colonFields_iff.2 right]
        exact ofGroups?_around_iff.2 ⟨zeros, missing, groups⟩

/-- The characters of an IPv6 address, as people write it. -/
def alphabet : List Char := ':' :: '.' :: hexDigits.map Prod.fst

theorem group_subset {part : List Char} {group : UInt16} (written : WrittenGroup part group) :
    part ⊆ alphabet :=
  List.subset_cons_of_subset ':' (List.subset_cons_of_subset '.' written.subset)

theorem parts_subset {parts : List (List Char)} {groups : List UInt16}
    (written : WrittenParts parts groups) : ∀ part ∈ parts, part ⊆ alphabet := by
  induction written with
  | nil => exact nofun
  | quad written =>
      intro part member
      obtain rfl := List.mem_singleton.1 member
      exact List.Subset.trans written.subset (by decide)
  | group written _ ih => exact List.forall_mem_cons.2 ⟨group_subset written, ih⟩

theorem end_subset {text : List Char} {groups : List UInt16} (written : WrittenEnd text groups) :
    text ⊆ alphabet := by
  obtain ⟨parts, rfl, each⟩ := written
  exact Text.joinWith_subset (by decide) (parts_subset each)

theorem Written.subset {text : List Char} {ip : Ipv6} (written : Written text ip) :
    text ⊆ alphabet := by
  cases written with
  | whole written => exact end_subset written
  | short front back before after zeros parts left right _ _ =>
      obtain ⟨fields, rfl, each⟩ := left
      have lead : Text.joinWith [':'] fields ⊆ alphabet :=
        Text.joinWith_subset (by decide) (forall_mem_of_each each fun part group => group_subset)
      have colons : [':', ':'] ⊆ alphabet := by decide
      rw [parts]
      exact List.append_subset.2 ⟨lead, List.append_subset.2 ⟨colons, end_subset right⟩⟩

theorem Written.colon_mem {text : List Char} {ip : Ipv6} (written : Written text ip) :
    ':' ∈ text := by
  cases written with
  | whole written =>
      obtain ⟨parts, rfl, each⟩ := written
      have enough := each.length_le
      rw [ip.eight] at enough
      exact Text.mem_joinWith (by omega)
  | short front back before after zeros parts left right _ _ =>
      rw [parts]
      exact List.mem_append_right front List.mem_cons_self

end Ipv6

/-! ## Either family -/

namespace Ip

inductive Written (text : List Char) : Ip → Prop where
  | v4 {ip : Ipv4} (written : Ipv4.Written text ip) : Written text (.v4 ip)
  | v6 {ip : Ipv6} (written : Ipv6.Written text ip) : Written text (.v6 ip)

/-- **An address is read exactly where one is written**, in its family. -/
theorem read?_eq_some_iff {text : List Char} {ip : Ip} :
    read? text = some ip ↔ Written text ip := by
  unfold read?
  constructor
  · intro read
    split at read
    · rename_i quad isQuad
      obtain rfl := Option.some.inj read
      exact .v4 (Ipv4.read?_eq_some_iff.1 isQuad)
    · obtain ⟨ip, found, rfl⟩ := Option.map_eq_some_iff.1 read
      exact .v6 (Ipv6.read?_eq_some_iff.1 found)
  · intro written
    cases written with
    | v4 written => rw [Ipv4.read?_eq_some_iff.2 written]
    | v6 written =>
        rw [Ipv4.read?_eq_none written.colon_mem, Ipv6.read?_eq_some_iff.2 written]
        rfl

theorem Written.subset {text : List Char} {ip : Ip} (written : Written text ip) :
    text ⊆ Ipv6.alphabet := by
  cases written with
  | v4 written => exact List.Subset.trans written.subset (by decide)
  | v6 written => exact written.subset

end Ip

end DialSelect
