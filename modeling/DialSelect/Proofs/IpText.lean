/-
# DialSelect.Proofs.IpText -- an address is read as it was printed

IPv4 is four fields, none of which contains the dot between them.  IPv6 has three
printed forms, and the reader has to come back from each:

* a mapped address, whose last two groups are written as a dotted quad;
* a list of groups with its longest run of zeros left out, where the reader cuts at
  the first `::` (`cutDoubleColon?_joinWith`) and fills in as many zeros as the groups
  on both sides leave room for, which is the length of the run
  (`eq_of_longestZeroRun`);
* eight groups without `::`.

The printed text of each kind consists of few characters (`Ipv4.letters`,
`Ipv6.letters`), and every IPv6 text has a colon, which no IPv4 text has.  So reading
an address of either family gives back the address in its family (`Ip.read?_print`).
-/
import DialSelect.Ip.Printer
import DialSelect.Ip.Reader
import DialSelect.Proofs.Fields
import DialSelect.Proofs.Numerals

namespace DialSelect

set_option autoImplicit false

/-! ## Dotted quads -/

theorem octet?_decimal (octet : UInt8) : octet? (Numeral.decimal octet.toNat) = some octet := by
  have small : octet.toNat < 256 := octet.toNat_lt
  have short : (Numeral.decimal octet.toNat).length ≤ 3 :=
    (Nat.length_toDigits_le_iff (by decide) (by decide)).2 (Nat.lt_trans small (by decide))
  have plain : (Numeral.decimal octet.toNat).head? = some '0' →
      (Numeral.decimal octet.toNat).length = 1 := by
    intro zero
    rw [Numeral.eq_zero_of_head?_toDigits (by decide) zero]
    rfl
  rw [octet?, if_pos ⟨short, plain⟩, Numeral.decimalBelow?_decimal small, Option.map_some,
    UInt8.ofNat_toNat]

theorem octet?_eq_none {text : List Char} {c : Char} (member : c ∈ text)
    (bad : Numeral.decimalDigit? c = none) : octet? text = none := by
  rw [octet?, Numeral.decimalBelow?_eq_none member bad]
  exact ite_self none

namespace Ipv4

/-- The characters of a dotted quad. -/
def letters : List Char := '.' :: Numeral.letters 10

theorem print_subset (ip : Ipv4) : ip.print ⊆ letters := by
  refine Text.joinWith_subset (by decide) fun part member => ?_
  obtain ⟨octet, -, rfl⟩ := List.mem_map.1 member
  exact fun c inside => List.mem_cons_of_mem '.' (Numeral.decimal_subset _ inside)

theorem fields_print (ip : Ipv4) :
    Text.fields '.' ip.print = ip.octets.map fun octet => Numeral.decimal octet.toNat := by
  refine Text.fields_joinWith (List.cons_ne_nil _ _) fun part member dot => ?_
  obtain ⟨octet, -, rfl⟩ := List.mem_map.1 member
  exact absurd (Numeral.decimal_subset _ dot) (by decide)

theorem read?_print (ip : Ipv4) : read? ip.print = some ip := by
  rw [read?, fields_print]
  simp only [octets, List.map_cons, List.map_nil, octet?_decimal]
  rfl

theorem read?_eq_none {text : List Char} (colon : ':' ∈ text) : read? text = none := by
  obtain ⟨field, found, inside⟩ := Text.mem_fields colon (show ':' ≠ '.' by decide)
  have bad : octet? field = none := octet?_eq_none inside rfl
  unfold read?
  split
  · rename_i a b c d parts
    simp only [parts, List.mem_cons, List.not_mem_nil, or_false] at found
    rcases found with rfl | rfl | rfl | rfl <;> simp [bad]
  · rfl

/-- A group is the group of its two octets. -/
theorem joinOctets (group : UInt16) :
    (group >>> 8).toUInt8.toUInt16 <<< 8 ||| group.toUInt8.toUInt16 = group := by
  have small : group.toNat < 65536 := group.toNat_lt
  have high : group.toNat >>> 8 % 256 = group.toNat / 256 := by
    rw [Nat.shiftRight_eq_div_pow]
    omega
  have shifted : (group.toNat / 256) <<< 8 = group.toNat / 256 * 256 := Nat.shiftLeft_eq _ 8
  have joined : (group.toNat / 256) <<< 8 + group.toNat % 256 =
      (group.toNat / 256) <<< 8 ||| group.toNat % 256 :=
    Nat.shiftLeft_add_eq_or_of_lt (Nat.mod_lt group.toNat (by decide)) (group.toNat / 256)
  apply UInt16.toNat_inj.1
  change (group.toNat >>> 8 % 256) <<< 8 % 65536 ||| group.toNat % 256 = group.toNat
  rw [high, Nat.mod_eq_of_lt (by omega), ← joined]
  omega

theorem high_ofGroups (high low : UInt16) : (ofGroups high low).high = high := joinOctets high

theorem low_ofGroups (high low : UInt16) : (ofGroups high low).low = low := joinOctets low

end Ipv4

/-! ## Groups -/

/-- The printed groups, each a field of its own. -/
def groupFields (groups : List UInt16) : List (List Char) :=
  groups.map fun group => Numeral.hexadecimal group.toNat

theorem groupFields_whole (groups : List UInt16) :
    ∀ field ∈ groupFields groups, field ≠ [] ∧ field ⊆ Numeral.letters 16 := by
  intro field member
  obtain ⟨group, -, rfl⟩ := List.mem_map.1 member
  exact ⟨Nat.toDigits_ne_nil, Numeral.hexadecimal_subset _⟩

theorem group?_hexadecimal (group : UInt16) :
    group? (Numeral.hexadecimal group.toNat) = some group := by
  have short : (Numeral.hexadecimal group.toNat).length ≤ 4 :=
    (Nat.length_toDigits_le_iff (by decide) (by decide)).2 group.toNat_lt
  rw [group?, if_pos short, Numeral.hexadecimal,
    Numeral.digits?_toDigits (by decide) Numeral.hexDigit?_digitChar, Option.map_some,
    UInt16.ofNat_toNat]

theorem groups?_groupFields (groups : List UInt16) :
    groups? (groupFields groups) = some groups := by
  induction groups with
  | nil => rfl
  | cons group rest ih =>
      have fields : groupFields (group :: rest) =
          Numeral.hexadecimal group.toNat :: groupFields rest := rfl
      rw [fields, groups?, group?_hexadecimal, ih]
      rfl

/-- A group is no dotted quad. -/
theorem groupsOrQuad?_group (group : UInt16) :
    groupsOrQuad? [Numeral.hexadecimal group.toNat] = some [group] := by
  have free : '.' ∉ Numeral.hexadecimal group.toNat := fun dot =>
    absurd (Numeral.hexadecimal_subset _ dot) (by decide)
  have noQuad : Ipv4.read? (Numeral.hexadecimal group.toNat) = none := by
    rw [Ipv4.read?, Text.fields_of_free free]
  rw [groupsOrQuad?, noQuad, group?_hexadecimal]
  rfl

theorem groupsOrQuad?_groupFields (groups : List UInt16) :
    groupsOrQuad? (groupFields groups) = some groups := by
  induction groups with
  | nil => rfl
  | cons group rest ih =>
      cases rest with
      | nil => exact groupsOrQuad?_group group
      | cons next others =>
          have fields : groupFields (group :: next :: others) =
              Numeral.hexadecimal group.toNat :: groupFields (next :: others) := rfl
          rw [fields, groupsOrQuad?, group?_hexadecimal, ih]
          · rfl
          · exact List.cons_ne_nil _ _

/-! ## The cut at `::` -/

theorem cutDoubleColon?_cons {c : Char} {rest : List Char}
    (single : c = ':' → rest.head? ≠ some ':') :
    cutDoubleColon? (c :: rest) = (cutDoubleColon? rest).map fun cut => (c :: cut.1, cut.2) := by
  rw [cutDoubleColon?]
  rintro next rfl rfl
  exact single rfl rfl

theorem cutDoubleColon?_append {front : List Char} (free : ':' ∉ front) (rest : List Char) :
    cutDoubleColon? (front ++ rest) =
      (cutDoubleColon? rest).map fun cut => (front ++ cut.1, cut.2) := by
  induction front with
  | nil => simp
  | cons c front ih =>
      obtain ⟨differ, free⟩ := List.ne_and_not_mem_of_not_mem_cons free
      rw [List.cons_append, cutDoubleColon?_cons fun same => absurd same.symm differ, ih free,
        Option.map_map]
      rfl

variable {parts : List (List Char)}

theorem head?_joinWith (lead : List Char) {part : List Char} (nonempty : part ≠ [])
    (others : List (List Char)) (rest : List Char) :
    (Text.joinWith lead (part :: others) ++ rest).head? = part.head? := by
  obtain ⟨c, tail, rfl⟩ := List.exists_cons_of_ne_nil nonempty
  cases others <;> rfl

/-- No cut is made inside parts that are joined by single colons. -/
theorem cutDoubleColon?_joinWith (whole : ∀ part ∈ parts, part ≠ [] ∧ ':' ∉ part)
    (rest : List Char) :
    cutDoubleColon? (Text.joinWith [':'] parts ++ rest) =
      (cutDoubleColon? rest).map fun cut => (Text.joinWith [':'] parts ++ cut.1, cut.2) := by
  induction parts with
  | nil => simp [Text.joinWith]
  | cons part others ih =>
      obtain ⟨-, free⟩ := whole part List.mem_cons_self
      cases others with
      | nil => exact cutDoubleColon?_append free rest
      | cons next later =>
          obtain ⟨solid, colonFree⟩ := whole next (List.mem_cons_of_mem _ List.mem_cons_self)
          have single : (Text.joinWith [':'] (next :: later) ++ rest).head? ≠ some ':' := by
            rw [head?_joinWith _ solid]
            exact fun colon => colonFree (List.mem_of_mem_head? colon)
          rw [Text.joinWith_cons _ part (List.cons_ne_nil next later), List.append_assoc,
            List.append_assoc, cutDoubleColon?_append free, List.singleton_append,
            cutDoubleColon?_cons fun _ => single,
            ih fun p inside => whole p (List.mem_cons_of_mem _ inside), Option.map_map,
            Option.map_map]
          simp [Function.comp_def]

/-- Parts that are joined by colons are read as fields, also where there are none. -/
theorem colonFields_joinWith (whole : ∀ part ∈ parts, part ≠ [] ∧ ':' ∉ part) :
    colonFields (Text.joinWith [':'] parts) = parts := by
  cases parts with
  | nil => rfl
  | cons part others =>
      have begun : Text.joinWith [':'] (part :: others) ≠ [] := by
        intro empty
        have head := head?_joinWith [':'] (whole part List.mem_cons_self).1 others []
        rw [empty] at head
        exact (whole part List.mem_cons_self).1 (List.head?_eq_none_iff.1 head.symm)
      obtain ⟨c, tail, text⟩ := List.exists_cons_of_ne_nil begun
      rw [text, colonFields, ← text]
      · exact Text.fields_joinWith (List.cons_ne_nil part others) fun p inside => (whole p inside).2
      · exact List.cons_ne_nil c tail

/-! ## Runs of zeros -/

theorem eq_of_leadingZeros (groups : List UInt16) :
    groups = List.replicate (leadingZeros groups) 0 ++ groups.drop (leadingZeros groups) := by
  induction groups with
  | nil => rfl
  | cons group rest ih =>
      by_cases zero : group = 0
      · have more : leadingZeros (group :: rest) = leadingZeros rest + 1 := by
          simp [leadingZeros, zero]
        rw [more, List.replicate_succ, List.drop_succ_cons, List.cons_append, ← ih, zero]
      · have none : leadingZeros (group :: rest) = 0 := by simp [leadingZeros, zero]
        rw [none]
        rfl

/-- The run that is found is a run of zeros, and lies within the groups. -/
theorem eq_of_longestZeroRun (groups : List UInt16) :
    let run := longestZeroRun groups
    groups = groups.take run.1 ++ List.replicate run.2 0 ++ groups.drop (run.1 + run.2) := by
  induction groups with
  | nil => rfl
  | cons group rest ih =>
      intro run
      by_cases first : (longestZeroRun rest).2 ≤ leadingZeros (group :: rest)
      · have here : run = (0, leadingZeros (group :: rest)) := if_pos first
        rw [here, Nat.zero_add]
        exact eq_of_leadingZeros (group :: rest)
      · have later : run = ((longestZeroRun rest).1 + 1, (longestZeroRun rest).2) := if_neg first
        rw [later, List.take_succ_cons, Nat.add_right_comm, List.drop_succ_cons, List.cons_append,
          List.cons_append, ← ih]

/-! ## IPv6 addresses -/

theorem groupFields_colonFree (groups : List UInt16) :
    ∀ field ∈ groupFields groups, field ≠ [] ∧ ':' ∉ field := by
  intro field member
  obtain ⟨nonempty, within⟩ := groupFields_whole groups field member
  exact ⟨nonempty, fun colon => absurd (within colon) (by decide)⟩

theorem cutDoubleColon?_printGroups (groups : List UInt16) (rest : List Char) :
    cutDoubleColon? (printGroups groups ++ rest) =
      (cutDoubleColon? rest).map fun cut => (printGroups groups ++ cut.1, cut.2) :=
  cutDoubleColon?_joinWith (groupFields_colonFree groups) rest

theorem colonFields_printGroups (groups : List UInt16) :
    colonFields (printGroups groups) = groupFields groups :=
  colonFields_joinWith (groupFields_colonFree groups)

namespace Ipv6

/-- The characters of an IPv6 address. -/
def letters : List Char := ':' :: '.' :: Numeral.letters 16

theorem printGroups_subset (groups : List UInt16) : printGroups groups ⊆ letters :=
  Text.joinWith_subset (by decide) fun field member c inside =>
    have digit := (groupFields_whole groups field member).2 inside
    List.mem_cons_of_mem _ (List.mem_cons_of_mem _ digit)

theorem ofGroups?_groups (ip : Ipv6) : ofGroups? ip.groups = some ip := dif_pos ip.eight

/-- The groups of a mapped address are a fixed front and the halves of its quad. -/
theorem groups_of_mapped? {ip : Ipv6} {quad : Ipv4} (mapped : ip.mapped? = some quad) :
    ip.groups = [0, 0, 0, 0, 0, 0xFFFF, quad.high, quad.low] := by
  unfold mapped? at mapped
  split at mapped
  · rename_i high low groups
    obtain rfl := Option.some.inj mapped
    rw [Ipv4.high_ofGroups, Ipv4.low_ofGroups, groups]
  · cases mapped

theorem print_of_mapped? {ip : Ipv6} {quad : Ipv4} (mapped : ip.mapped? = some quad) :
    ip.print = ':' :: ':' :: (['f', 'f', 'f', 'f'] ++ ':' :: quad.print) := by
  rw [print, mapped]
  rfl

/-- An address that is not mapped is printed by its groups, without its longest run of
zeros if that is two groups or longer. -/
theorem print_of_not_mapped {ip : Ipv6} (plain : ip.mapped? = none) :
    let run := longestZeroRun ip.groups
    ip.print =
      if 2 ≤ run.2 then
        printGroups (ip.groups.take run.1) ++ ':' :: ':' ::
          printGroups (ip.groups.drop (run.1 + run.2))
      else printGroups ip.groups := by
  rw [print, plain]
  simp only [List.append_assoc, List.cons_append, List.nil_append]

/-- A mapped address comes back from the dotted quad it was printed with. -/
theorem read?_print_of_mapped? {ip : Ipv6} {quad : Ipv4} (mapped : ip.mapped? = some quad) :
    read? ip.print = some ip := by
  have colonFree : ':' ∉ quad.print := fun colon => absurd (quad.print_subset colon) (by decide)
  have fields : colonFields (['f', 'f', 'f', 'f'] ++ ':' :: quad.print) =
      [['f', 'f', 'f', 'f'], quad.print] := by
    rw [colonFields, Text.fields_append (by decide), Text.fields_of_free colonFree]
    exact nofun
  have after : groupsOrQuad? [['f', 'f', 'f', 'f'], quad.print] =
      some [0xFFFF, quad.high, quad.low] := by
    have lead : group? ['f', 'f', 'f', 'f'] = some 0xFFFF := by decide
    rw [groupsOrQuad?, lead, groupsOrQuad?, quad.read?_print]
    · rfl
    · exact nofun
  have cut : cutDoubleColon? (':' :: ':' :: (['f', 'f', 'f', 'f'] ++ ':' :: quad.print)) =
      some ([], ['f', 'f', 'f', 'f'] ++ ':' :: quad.print) := rfl
  have whole : ofGroups? [0, 0, 0, 0, 0, 0xFFFF, quad.high, quad.low] = some ip := by
    rw [← groups_of_mapped? mapped, ofGroups?_groups]
  rw [print_of_mapped? mapped, read?, cut]
  simp only [fields, after]
  exact whole

/-- Groups around `::` are read as these groups with zeros between them. -/
theorem read?_around (front back : List UInt16) (room : front.length + back.length ≤ 7) :
    read? (printGroups front ++ ':' :: ':' :: printGroups back) =
      ofGroups? (front ++ List.replicate (8 - (front.length + back.length)) 0 ++ back) := by
  have cut : cutDoubleColon? (printGroups front ++ ':' :: ':' :: printGroups back) =
      some (printGroups front, printGroups back) := by
    rw [cutDoubleColon?_printGroups, cutDoubleColon?, Option.map_some, List.append_nil]
  rw [read?, cut]
  simp only [colonFields_printGroups, groups?_groupFields, groupsOrQuad?_groupFields]
  exact if_pos room

theorem read?_printGroups {groups : List UInt16} (nonempty : groups ≠ []) :
    read? (printGroups groups) = ofGroups? groups := by
  have cut : cutDoubleColon? (printGroups groups) = none := by
    have step := cutDoubleColon?_printGroups groups []
    rw [List.append_nil] at step
    exact step
  have fields : Text.fields ':' (printGroups groups) = groupFields groups :=
    Text.fields_joinWith (fun none => nonempty (List.map_eq_nil_iff.1 none)) fun field member =>
      (groupFields_colonFree groups field member).2
  rw [read?, cut]
  simp only [fields, groupsOrQuad?_groupFields]
  rfl

/-- **An IPv6 address is read as it was printed**, wherever its zeros stand. -/
theorem read?_print (ip : Ipv6) : read? ip.print = some ip := by
  cases mapped : ip.mapped? with
  | some quad => exact read?_print_of_mapped? mapped
  | none =>
      rw [print_of_not_mapped mapped]
      have groups := eq_of_longestZeroRun ip.groups
      split
      · rename_i long
        have lengths := congrArg List.length groups
        rw [List.length_append, List.length_append, List.length_replicate, ip.eight] at lengths
        rw [read?_around _ _ (by omega), ← ip.ofGroups?_groups]
        refine congrArg ofGroups? (Eq.trans ?_ groups.symm)
        congr 3
        omega
      · have nonempty : ip.groups ≠ [] := fun empty => by
          have eight := ip.eight
          rw [empty] at eight
          cases eight
        rw [read?_printGroups nonempty, ofGroups?_groups]

theorem print_subset (ip : Ipv6) : ip.print ⊆ letters := by
  have colon : [':'] ⊆ letters := by decide
  have doubleColon : [':', ':'] ⊆ letters := by decide
  cases mapped : ip.mapped? with
  | some quad =>
      have quadLetters : Ipv4.letters ⊆ letters := by decide
      have lead : [':', ':', 'f', 'f', 'f', 'f', ':'] ⊆ letters := by decide
      rw [print_of_mapped? mapped]
      exact List.append_subset.2 ⟨lead, List.Subset.trans quad.print_subset quadLetters⟩
  | none =>
      rw [print_of_not_mapped mapped]
      split
      · exact List.append_subset.2 ⟨printGroups_subset _,
          List.append_subset.2 ⟨doubleColon, printGroups_subset _⟩⟩
      · exact printGroups_subset _

theorem colon_mem_print (ip : Ipv6) : ':' ∈ ip.print := by
  cases mapped : ip.mapped? with
  | some quad =>
      rw [print_of_mapped? mapped]
      exact List.mem_cons_self
  | none =>
      rw [print_of_not_mapped mapped]
      split
      · exact List.mem_append_right _ List.mem_cons_self
      · refine Text.mem_joinWith ?_
        rw [List.length_map, ip.eight]
        decide

end Ipv6

/-! ## Either family -/

namespace Ip

theorem print_subset (ip : Ip) : ip.print ⊆ Ipv6.letters := by
  cases ip with
  | v4 ip => exact List.Subset.trans ip.print_subset (by decide)
  | v6 ip => exact ip.print_subset

/-- **An address is read as it was printed**, in the family it was printed in. -/
theorem read?_print (ip : Ip) : read? ip.print = some ip := by
  cases ip with
  | v4 ip => rw [read?, print, ip.read?_print]
  | v6 ip =>
      rw [read?, print, Ipv4.read?_eq_none ip.colon_mem_print, ip.read?_print]
      rfl

theorem print_ne_nil (ip : Ip) : ip.print ≠ [] := by
  intro empty
  have read := ip.read?_print
  rw [empty] at read
  cases read

end Ip

end DialSelect
