/-
# DialSelect.Proofs.FirstRecords -- the first record of a family

A share with one place for a family finds that family's first record (`Share.take_one`), and a
share with a place for each finds both, where they stand in the collection.  So the rules for
first records are shares, too.

* The default choice is the cap of one.  A fair share of one place gives it to IPv4 as long as
  there is an IPv4 record, or no record of either family, and to IPv6 otherwise
  (`Share.fair_one`), and so does the search for an IPv4 record that falls back on IPv6.  It
  warns exactly where neither is found (`Pick.default_three_ways`).
* What `firstEach` leaves of two records or more are the records that lead their family: no
  record of that family stands before them (`Pick.firstEach_leaders`).
-/
import DialSelect.Proofs.Cap
import DialSelect.Proofs.Scans
import DialSelect.Proofs.Tally

namespace DialSelect

set_option autoImplicit false

variable {α : Type} {family : α → Option Family}

namespace Share

theorem isSome_of_mem_take {share : Share} {records : List α} {record : α}
    (member : record ∈ share.take family records) : (family record).isSome := by
  induction records generalizing share with
  | nil => cases member
  | cons other rest ih =>
      rw [take] at member
      cases spent : share.spend? (family other) with
      | none =>
          rw [spent] at member
          exact ih member
      | some left =>
          rw [spent] at member
          rcases List.mem_cons.1 member with rfl | later
          · exact (of_spend? spent).1
          · exact ih later

theorem of_one_each (kind : Family) : of ⟨1, 1⟩ kind = 1 := by
  cases kind <;> rfl

theorem of_one (kind each : Family) : (one kind).of each = if each = kind then 1 else 0 := by
  cases kind <;> cases each <;> rfl

/-- With one place for a family, and none for the other, the family's first record is kept. -/
theorem take_one (kind : Family) (records : List α) :
    (one kind).take family records = (Pick.firstRecord? family kind records).toList := by
  induction records with
  | nil => rfl
  | cons record rest ih =>
      rw [take, Pick.firstRecord?_cons]
      by_cases here : family record = some kind
      · have spent : (one kind).spend? (some kind) = some ⟨0, 0⟩ := by cases kind <;> rfl
        rw [here, spent, if_pos rfl]
        exact congrArg (record :: ·) (take_empty family rest)
      · have refused : (one kind).spend? (family record) = none := by
          refine spend?_eq_none_iff.2 fun each known => ?_
          rw [of_one, if_neg fun same => here (known.trans (congrArg some same))]
        rw [refused, if_neg here]
        exact ih

theorem firstRecord?_take {share : Share} {kind : Family} (room : share.of kind ≠ 0)
    (records : List α) :
    Pick.firstRecord? family kind (share.take family records) =
      Pick.firstRecord? family kind records := by
  rw [Pick.firstRecord?_eq_head?, Pick.firstRecord?_eq_head?, filter_take, List.head?_take,
    if_neg room]

/-- A fair share of one place is IPv6's if only IPv6 has records, and else IPv4's. -/
theorem fair_one (n4 n6 : Nat) :
    fair 1 n4 n6 = one (if n4 = 0 ∧ n6 ≠ 0 then .v6 else .v4) := by
  have half : 1 / 2 = 0 := rfl
  simp only [fair, half, Nat.le_zero]
  by_cases none6 : n6 = 0
  · simp [none6, one]
  · by_cases none4 : n4 = 0 <;> simp [none6, none4, one]

end Share

namespace Collection

theorem present_toList (found : Option α) : present found.toList = found.map ([·]) := by
  cases found <;> rfl

end Collection

namespace Pick

theorem select_default_eq_atMost (records : List α) :
    select family .default records = select family (.atMost 1) records := by
  by_cases short : records.length ≤ 1
  · rw [select_atMost_of_short short]
    exact if_pos short
  · rw [select_default_of_long short, select_atMost_of_long (Nat.lt_of_not_le short),
      Share.fair_one, Share.take_one, Collection.present_toList]
    simp only [select]
    by_cases none4 : Share.count family .v4 records = 0
    · have four := firstRecord?_eq_none_iff.2 none4
      by_cases none6 : Share.count family .v6 records = 0
      · rw [if_neg fun only6 => only6.2 none6, four, firstRecord?_eq_none_iff.2 none6]
        rfl
      · rw [if_pos ⟨none4, none6⟩, four]
        rfl
    · have found := mt firstRecord?_eq_none_iff.1 none4
      obtain ⟨record, four⟩ := Option.ne_none_iff_exists'.1 found
      rw [if_neg fun only6 => none4 only6.1, four]
      rfl

/-- **The default choice in three ways.**  Over every network it is the cap of one, for every
collection, absent or not.  Of two records or more it is the first IPv4 record, or else the first
IPv6 record.  One pass finds it that remembers the first IPv6 record on its way to an IPv4
record, and so does one that counts the families first and then hands out a fair share of one
place.

A stage that makes this choice draws on no permuter, and it warns, with the number of records,
exactly if there is no record of either family. -/
theorem default_three_ways (network : Network) :
    let family := Record.family? network
    (∀ value, apply family .default value = apply family (.atMost 1) value) ∧
    ∀ records : List network.Record, 2 ≤ records.length →
      let four := select family (.firstOf .v4) records
      let six := select family (.firstOf .v6) records
      let fair := Share.fair 1 (Share.count family .v4 records) (Share.count family .v6 records)
      select family .default records = four.or six ∧
      (seek family none records).map ([·]) = select family .default records ∧
      fair.scan family none records = select family .default records ∧
      ∀ (σ : Type) (permuter : Permuter σ) (state : σ),
        (Stage.pick .default).apply family permuter (some records) state = .ok ⟨four.or six, state,
          if four = none ∧ six = none then [.noAddressFamily records.length] else []⟩ := by
  intro family
  refine ⟨fun value => congrArg value.bind (funext select_default_eq_atMost),
    fun records long => ?_⟩
  intro four six fair
  have looks : ¬records.length ≤ 1 := Nat.not_le_of_lt long
  have turns : select family .default records = four.or six := select_default_of_long looks
  refine ⟨turns, ?_, ?_, fun σ permuter state => ?_⟩
  · rw [seek_none, turns, Option.map_or]
    rfl
  · rw [Share.scan_none, select_default_eq_atMost, select_atMost_of_long long]
  · have warns : reports family .default records =
        if four = none ∧ six = none then [.noAddressFamily records.length] else [] := by
      refine if_congr ?_ rfl rfl
      rw [turns, Option.isNone_iff_eq_none, Option.or_eq_none_iff]
      exact and_iff_right long
    rw [← warns, ← turns]
    rfl

/-- Two IPv6 sockets in front of one of IPv4, and two paths. -/
theorem default_three_ways_turned :
    let sockets : List Network.tcp.Record :=
      [.v6 ⟨[0x2001, 0xDB8, 0, 0, 0, 0, 0, 1], rfl⟩ 443 0,
        .v6 ⟨[0x2001, 0xDB8, 0, 0, 0, 0, 0, 2], rfl⟩ 443 0, .v4 ⟨192, 0, 2, 1⟩ 80]
    let paths : List Network.unix.Record := [⟨"/run/a"⟩, ⟨"/run/b"⟩]
    2 ≤ sockets.length ∧ 2 ≤ paths.length ∧
    seek (Record.family? .tcp) none sockets = some (.v4 ⟨192, 0, 2, 1⟩ 80) ∧
    select (Record.family? .tcp) .default sockets = some [.v4 ⟨192, 0, 2, 1⟩ 80] ∧
    (Stage.pick .default).apply (Record.family? .unix) .still (some paths) () =
      .ok ⟨none, (), [.noAddressFamily 2]⟩ := by
  intro sockets paths
  have long : 2 ≤ sockets.length := by decide
  have two : 2 ≤ paths.length := by decide
  obtain ⟨-, found, -⟩ := (default_three_ways .tcp).2 sockets long
  obtain ⟨-, -, -, warned⟩ := (default_three_ways .unix).2 paths two
  exact ⟨long, two, rfl, found.symm, warned Unit .still ()⟩

end Pick

/-! ## The first record of each family -/

/-- The record at a position leads its family: it has one, and no record of that family stands
before it. -/
def Collection.leads (family : α → Option Family) (records : List α) (index : Nat) : Bool :=
  match familyAt family records index with
  | some kind => decide (∀ earlier < index, familyAt family records earlier ≠ some kind)
  | none => false

namespace Share

/-- No record of a family stands before a position. -/
theorem count_take_eq_zero_iff {kind : Family} {records : List α} {index : Nat} :
    count family kind (records.take index) = 0 ↔
      ∀ earlier < index, Collection.familyAt family records earlier ≠ some kind := by
  unfold count
  rw [List.countP_eq_zero]
  constructor
  · intro absent earlier before same
    obtain ⟨record, here, has⟩ := Option.bind_eq_some_iff.1 same
    have member : record ∈ records.take index := by
      refine List.mem_of_getElem? (i := earlier) ?_
      rw [List.getElem?_take_of_lt before]
      exact here
    exact absent record member (decide_eq_true has)
  · intro none record member has
    obtain ⟨earlier, here⟩ := List.mem_iff_getElem?.1 member
    rw [List.getElem?_take] at here
    split at here
    · rename_i before
      refine none earlier before ?_
      rw [Collection.familyAt, here]
      exact of_decide_eq_true has
    · cases here

/-- With a place for each family, a share has room for the records that lead theirs. -/
theorem admits_one_each (records : List α) :
    admits family ⟨1, 1⟩ records = Collection.leads family records := by
  funext index
  unfold admits Collection.leads
  cases Collection.familyAt family records index with
  | none => rfl
  | some kind =>
      dsimp only
      rw [of_one_each, Bool.eq_iff_iff, decide_eq_true_eq, decide_eq_true_eq, Nat.lt_one_iff,
        count_take_eq_zero_iff]

/-- Records that all have a family are those of one family and those of the other. -/
theorem filter_append_filter_perm {records : List α}
    (known : ∀ record ∈ records, (family record).isSome) :
    (records.filter (family · = some .v4) ++ records.filter (family · = some .v6)).Perm records := by
  have other : records.filter (family · = some .v6) = records.filter (!family · = some .v4) := by
    refine List.filter_congr fun record member => ?_
    obtain ⟨kind, has⟩ := Option.isSome_iff_exists.1 (known record member)
    rw [has]
    cases kind <;> rfl
  rw [other]
  exact List.filter_append_perm _ records

/-- With a place for each family, the first record of each is kept and nothing else. -/
theorem take_one_each_perm (records : List α) :
    (take family ⟨1, 1⟩ records).Perm ((Pick.firstRecord? family .v4 records).toList ++
      (Pick.firstRecord? family .v6 records).toList) := by
  have first (kind : Family) : (take family ⟨1, 1⟩ records).filter (family · = some kind) =
      (Pick.firstRecord? family kind records).toList := by
    rw [filter_take, of_one_each, List.take_one, ← Pick.firstRecord?_eq_head?]
  have parts := filter_append_filter_perm
    fun record (member : record ∈ take family ⟨1, 1⟩ records) => isSome_of_mem_take member
  rw [first, first] at parts
  exact parts.symm

end Share

namespace Pick

/-- **What leads its family is left.**  Of one record or none everything is left.  Of more, over
every network, exactly the records at those positions are left that have a family and no record
of that family before them, in their order.  These are the first IPv4 record, if there is one,
and the first IPv6 record, if there is one; and nothing is left if there is neither.  A scan
that stops when it has found both leaves the same. -/
theorem firstEach_leaders (network : Network) (records : List network.Record) :
    let family := Record.family? network
    let left := select family .firstEach records
    let four := firstRecord? family .v4 records
    let six := firstRecord? family .v6 records
    if records.length ≤ 1 then left = some records
    else ∃ kept,
      Collection.gather records
        ((List.range records.length).filter (Collection.leads family records)) = .ok kept ∧
      kept.Perm (four.toList ++ six.toList) ∧
      left = (if four = none ∧ six = none then none else some kept) ∧
      Share.scan family ⟨1, 1⟩ none records = left := by
  intro family left four six
  by_cases short : records.length ≤ 1
  · rw [if_pos short]
    exact if_pos short
  · rw [if_neg short]
    have taken : left = Collection.present (Share.take family ⟨1, 1⟩ records) := if_neg short
    have both : (Share.take family ⟨1, 1⟩ records).Perm (four.toList ++ six.toList) :=
      Share.take_one_each_perm records
    have neither : (Share.take family ⟨1, 1⟩ records).length = 0 ↔ four = none ∧ six = none := by
      rw [both.length_eq, List.length_eq_zero_iff, List.append_eq_nil_iff,
        Option.toList_eq_nil_iff, Option.toList_eq_nil_iff]
    refine ⟨Share.take family ⟨1, 1⟩ records, ?_, both, ?_, ?_⟩
    · rw [← Share.admits_one_each]
      exact Share.gather_admitted ⟨1, 1⟩ records
    · rw [taken, Collection.present_eq_ite]
      exact if_congr neither rfl rfl
    · rw [Share.scan_none, taken]

/-- Records that are families, and one that is none. -/
example : select id .firstEach [none, some .v6, some .v6, some .v4] =
    some [some .v6, some .v4] := rfl

end Pick

end DialSelect
