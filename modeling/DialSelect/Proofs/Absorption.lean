/-
# DialSelect.Proofs.Absorption -- what a choice does not see may go before it is made

The default choice, `firstEach` and the rule for the first record of a family look at the first
record of each family and at nothing else (`Pick.SeesFirsts`).  A share keeps these records if it
has a place for every family that there is (`Share.Serves`).  `firstEach` and every limit of two
or more leave the records as they are or take such a share (`Pick.Spares`).  So the choices do
not notice what these rules left out before them (`Pick.SeesFirsts.absorbs`).

One record or none is handed back without a look by some of the rules and not by others.  That
makes no difference here: what a share leaves of more records all has a family, and a single
record with a family is what a look at it finds.
-/
import DialSelect.Proofs.FirstRecords

namespace DialSelect

set_option autoImplicit false

variable {α : Type} {family : α → Option Family}

namespace Share

/-- Before a record there are fewer records of its family than there are in all. -/
theorem count_take_lt {records : List α} {index : Nat} {kind : Family}
    (here : Collection.familyAt family records index = some kind) :
    count family kind (records.take index) < count family kind records := by
  obtain ⟨record, found, has⟩ := Option.bind_eq_some_iff.1 here
  have member : record ∈ records.drop index := by
    refine List.mem_of_getElem? (i := 0) ?_
    rw [List.getElem?_drop]
    exact found
  have behind : 0 < count family kind (records.drop index) :=
    List.countP_pos_iff.2 ⟨record, member, decide_eq_true has⟩
  have parts : count family kind records =
      count family kind (records.take index) + count family kind (records.drop index) := by
    unfold count
    rw [← List.countP_append, List.take_append_drop]
  omega

/-- Places for which there are no records make no difference. -/
theorem take_congr {share other : Share} {records : List α}
    (same : ∀ kind, min (share.of kind) (count family kind records) =
      min (other.of kind) (count family kind records)) :
    share.take family records = other.take family records := by
  have admitted : (List.range records.length).filter (share.admits family records) =
      (List.range records.length).filter (other.admits family records) := by
    refine List.filter_congr fun index _ => ?_
    unfold admits
    cases here : Collection.familyAt family records index with
    | none => rfl
    | some kind =>
        have before := count_take_lt here
        have places := same kind
        dsimp only
        rw [decide_eq_decide]
        omega
  have kept : Collection.gather records
      ((List.range records.length).filter (other.admits family records)) =
        .ok (share.take family records) := by
    rw [← admitted]
    exact gather_admitted share records
  exact Except.ok.inj (kept.symm.trans (gather_admitted other records))

/-- A share has a place for every family of which there are records. -/
def Serves (family : α → Option Family) (share : Share) (records : List α) : Prop :=
  ∀ kind, count family kind records ≠ 0 → share.of kind ≠ 0

theorem one_each_serves (records : List α) : Serves family ⟨1, 1⟩ records := by
  intro kind _
  rw [of_one_each]
  exact Nat.one_ne_zero

/-- A limit of two or more is shared with every family that has records. -/
theorem fair_ne_zero {limit n4 n6 : Nat} (two : 2 ≤ limit) :
    (n4 ≠ 0 → (fair limit n4 n6).v4 ≠ 0) ∧ (n6 ≠ 0 → (fair limit n4 n6).v6 ≠ 0) := by
  unfold fair
  dsimp only
  split
  · dsimp only; omega
  · split <;> dsimp only <;> omega

theorem fair_serves {limit : Nat} (two : 2 ≤ limit) (records : List α) :
    (fair limit (count family .v4 records) (count family .v6 records)).Serves family records := by
  intro kind
  cases kind with
  | v4 => exact (fair_ne_zero two).1
  | v6 => exact (fair_ne_zero two).2

variable {share : Share} {records : List α}

/-- What serves every family keeps the first record of each. -/
theorem Serves.firstRecord?_take (serves : share.Serves family records) (kind : Family) :
    Pick.firstRecord? family kind (share.take family records) =
      Pick.firstRecord? family kind records := by
  by_cases absent : count family kind records = 0
  · have lost : count family kind (share.take family records) = 0 := by
      rw [count_take, absent, Nat.min_zero]
    rw [Pick.firstRecord?_eq_none_iff.2 absent, Pick.firstRecord?_eq_none_iff.2 lost]
  · exact Share.firstRecord?_take (serves kind absent) records

theorem Serves.take_one_each_take (serves : share.Serves family records) :
    take family ⟨1, 1⟩ (share.take family records) = take family ⟨1, 1⟩ records := by
  rw [take_take]
  refine take_congr fun kind => ?_
  have place := serves kind
  cases kind <;> simp only [of, meet] at place ⊢ <;> omega

end Share

namespace Pick

variable {rule choice : Pick}

/-! ## Rules that spare the first records -/

/-- A rule that leaves the records as they are, or takes of two or more a share that serves every
family. -/
def Spares (family : α → Option Family) (rule : Pick) : Prop :=
  ∀ records, select family rule records = some records ∨
    2 ≤ records.length ∧ ∃ share : Share, share.Serves family records ∧
      select family rule records = Collection.present (share.take family records)

theorem spares_firstEach : Spares family .firstEach := by
  intro records
  by_cases short : records.length ≤ 1
  · exact .inl (if_pos short)
  · exact .inr ⟨Nat.lt_of_not_le short, ⟨1, 1⟩, Share.one_each_serves records, if_neg short⟩

theorem spares_atMost {limit : Nat} (two : 2 ≤ limit) : Spares family (.atMost limit) := by
  intro records
  by_cases short : records.length ≤ limit
  · exact .inl (select_atMost_of_short short)
  · have long := Nat.lt_of_not_le short
    exact .inr ⟨Nat.le_trans two (Nat.le_of_lt long), _, Share.fair_serves two records,
      select_atMost_of_long long⟩

/-! ## Choices that see the first records only -/

/-- A choice that leaves what a look at the records finds, if there are two or more, or one with a
family.  A look finds nothing in nothing, and the same whether or not there are records behind
the first of each family. -/
structure SeesFirsts (family : α → Option Family) (choice : Pick)
    (look : List α → Option (List α)) : Prop where
  nothing : look [] = none
  long : ∀ records, 2 ≤ records.length → select family choice records = look records
  known : ∀ record, (family record).isSome → select family choice [record] = look [record]
  firsts : ∀ (share : Share) records, share.Serves family records →
    look (share.take family records) = look records

theorem seesFirsts_firstOf (kind : Family) :
    SeesFirsts family (.firstOf kind) (select family (.firstOf kind)) where
  nothing := rfl
  long _ _ := rfl
  known _ _ := rfl
  firsts _ _ serves := congrArg (Option.map ([·])) (serves.firstRecord?_take kind)

theorem seesFirsts_default : SeesFirsts family .default fun records =>
    (select family (.firstOf .v4) records).or (select family (.firstOf .v6) records) where
  nothing := rfl
  long _ long := select_default_of_long (Nat.not_le_of_lt long)
  known record has := by
    obtain ⟨kind, has⟩ := Option.isSome_iff_exists.1 has
    cases kind <;> simp [select, firstRecord?, has]
  firsts share records serves := by
    rw [(seesFirsts_firstOf .v4).firsts share records serves,
      (seesFirsts_firstOf .v6).firsts share records serves]

theorem seesFirsts_firstEach : SeesFirsts family .firstEach fun records =>
    Collection.present (Share.take family ⟨1, 1⟩ records) where
  nothing := rfl
  long _ long := if_neg (Nat.not_le_of_lt long)
  known record has := by
    obtain ⟨kind, has⟩ := Option.isSome_iff_exists.1 has
    cases kind <;> simp [select, Share.take, Share.spend?, has, Collection.present]
  firsts _ _ serves := congrArg Collection.present serves.take_one_each_take

/-- What a share keeps all has a family, so a choice looks at it. -/
theorem SeesFirsts.present_take_bind {look : List α → Option (List α)}
    (sees : SeesFirsts family choice look) {share : Share} {records : List α}
    (serves : share.Serves family records) :
    (Collection.present (share.take family records)).bind (select family choice) =
      look records := by
  rw [← sees.firsts share records serves]
  cases kept : share.take family records with
  | nil => exact sees.nothing.symm
  | cons record rest =>
      cases rest with
      | nil =>
          have member : record ∈ share.take family records := kept ▸ List.mem_cons_self
          exact sees.known record (Share.isSome_of_mem_take member)
      | cons next others => exact sees.long _ (Nat.le_add_left 2 others.length)

/-- A choice that sees the first records only does not notice a rule that spares them. -/
theorem SeesFirsts.absorbs {look : List α → Option (List α)}
    (sees : SeesFirsts family choice look) (spares : Spares family rule)
    (value : Option (List α)) :
    apply family choice (apply family rule value) = apply family choice value := by
  cases value with
  | none => rfl
  | some records =>
      simp only [apply, Option.bind_some]
      rcases spares records with unchanged | ⟨long, share, serves, taken⟩
      · rw [unchanged, Option.bind_some]
      · rw [taken, sees.present_take_bind serves, sees.long records long]

/-- The first of all records of a family is its first record. -/
theorem only_first (kind : Family) (value : Option (List α)) :
    apply family .first (apply family (.only kind) value) = apply family (.firstOf kind) value := by
  cases value with
  | none => rfl
  | some records =>
      simp only [apply, Option.bind_some, select, firstRecord?_eq_head?]
      cases records.filter (family · = some kind) <;> rfl

/-- **Choices absorb what spares the first records.**  Over every network and for every
collection, absent or not: to choose the first of a family's records is to look for that family's
first record, and the default choice, the first record of a family and `firstEach` itself are the
same after `firstEach` as without it.  `firstEach` is also the same after a limit of two or more,
which has a place for each family. -/
theorem first_choices_absorb (network : Network) (value : Option (List network.Record)) :
    let rule := apply (Record.family? network)
    (∀ kind, rule .first (rule (.only kind) value) = rule (.firstOf kind) value) ∧
    rule .default (rule .firstEach value) = rule .default value ∧
    (∀ kind, rule (.firstOf kind) (rule .firstEach value) = rule (.firstOf kind) value) ∧
    rule .firstEach (rule .firstEach value) = rule .firstEach value ∧
    ∀ limit, 2 ≤ limit → rule .firstEach (rule (.atMost limit) value) = rule .firstEach value := by
  intro rule
  refine ⟨fun kind => only_first kind value, ?_, fun kind => ?_, ?_, fun limit two => ?_⟩
  · exact seesFirsts_default.absorbs spares_firstEach value
  · exact (seesFirsts_firstOf kind).absorbs spares_firstEach value
  · exact seesFirsts_firstEach.absorbs spares_firstEach value
  · exact seesFirsts_firstEach.absorbs (spares_atMost two) value

/-- Of three IPv4 sockets with one of IPv6 behind them a limit of two leaves the two that
`firstEach` chooses.  A limit of one has no place for IPv6. -/
theorem first_choices_absorb_capped :
    let sockets : List Network.tcp.Record :=
      [.v4 ⟨192, 0, 2, 1⟩ 80, .v4 ⟨192, 0, 2, 2⟩ 80, .v4 ⟨192, 0, 2, 3⟩ 80,
        .v6 ⟨[0x2001, 0xDB8, 0, 0, 0, 0, 0, 1], rfl⟩ 443 0]
    let rule := apply (Record.family? .tcp)
    2 ≤ 2 ∧ rule (.atMost 2) (some sockets) ≠ some sockets ∧
    rule .firstEach (rule (.atMost 2) (some sockets)) = rule .firstEach (some sockets) ∧
    rule .firstEach (rule (.atMost 1) (some sockets)) ≠ rule .firstEach (some sockets) := by
  intro sockets rule
  obtain ⟨-, -, -, -, absorbs⟩ := first_choices_absorb .tcp (some sockets)
  exact ⟨Nat.le_refl 2, by decide, absorbs 2 (Nat.le_refl 2), by decide⟩

end Pick
end DialSelect
