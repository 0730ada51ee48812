/-
# DialSelect.Proofs.Cap -- what is left under a limit

A collection within the limit is left alone.  Of a longer one, each family gets its
fair share, which the collection can fill, so exactly `limit` records are left: the
front of each family, in the order in which they stood (`Pick.atMost_fair`).  How the
families are interleaved decides only where the records stand, not which ones are
kept.  Records without a family have no share, so of these nothing is left.

Of two limits the smaller one counts (`Pick.cap_of_cap`).  A share that keeps part of
what another one kept keeps what both have room for (`Share.take_take`), and a tighter
limit gives no family more room (`Share.Balanced.mono`), so it remains to see that it
shares the records that the wider limit left as it shares all of them.  For that the
fair share is told by what it owes each family and not by how it is computed
(`Share.Balanced.unique`).
-/
import DialSelect.Proofs.Shares
import DialSelect.Record

namespace DialSelect

set_option autoImplicit false

variable {α : Type} {family : α → Option Family}

namespace Share

/-- Where there are more records than the limit, a fair share gives IPv6 its half or
what it has, or more where IPv4 falls short, and IPv4 the rest. -/
theorem fair_eq {limit n4 n6 : Nat} (more : limit < n4 + n6) :
    fair limit n4 n6 =
      ⟨limit - max (min n6 (limit / 2)) (limit - n4), max (min n6 (limit / 2)) (limit - n4)⟩ := by
  unfold fair
  dsimp only
  split
  · congr 1 <;> omega
  · split <;> congr 1 <;> omega

example : fair 5 1 9 = ⟨1, 4⟩ := rfl

theorem take_eq_nil (blind : ∀ record, family record = none) (share : Share) (records : List α) :
    share.take family records = [] := by
  induction records with
  | nil => rfl
  | cons record rest ih =>
      rw [take, blind record]
      exact ih

end Share

namespace Pick

/-- **A limit shares fairly and leaves the front of each family.**  With `b` places
for IPv6 and `a` for IPv4, a collection longer than the limit keeps its first `a` IPv4
and its first `b` IPv6 records, which are those at the positions with a rank below
their family's share; there are `limit` of them, and nothing is left only if the
limit is zero.  Of local sockets beyond the limit nothing is left. -/
theorem atMost_fair (network : Network) (limit : Nat) (records : List network.Record) :
    let family := Record.family? network
    let n4 := Share.count family .v4 records
    let n6 := Share.count family .v6 records
    let b := max (min n6 (limit / 2)) (limit - n4)
    let a := limit - b
    let left := select family (.atMost limit) records
    if records.length ≤ limit then left = some records
    else if network.hasIp then
      ∃ kept, left = (if limit = 0 then none else some kept) ∧ kept.length = limit ∧
        kept.filter (family · = some .v4) = (records.filter (family · = some .v4)).take a ∧
        kept.filter (family · = some .v6) = (records.filter (family · = some .v6)).take b ∧
        Share.count family .v4 kept = a ∧ Share.count family .v6 kept = b ∧
        Collection.gather records
          ((List.range records.length).filter (Share.admits family ⟨a, b⟩ records)) = .ok kept
    else left = none := by
  intro family n4 n6 b a left
  by_cases short : records.length ≤ limit
  · rw [if_pos short]
    exact if_pos short
  · rw [if_neg short]
    have scanned : left = Collection.present ((Share.fair limit n4 n6).take family records) :=
      if_neg short
    by_cases ip : network.hasIp
    · have total := Record.family?_isSome ip
      have more : limit < n4 + n6 := by
        rw [Share.count_add_count total]
        exact Nat.lt_of_not_le short
      have length := Share.length_take_fair total more
      have kept4 := Share.count_take_fair more .v4
      have kept6 := Share.count_take_fair more .v6
      rw [Share.fair_eq more] at scanned length kept4 kept6
      rw [if_pos ip]
      refine ⟨Share.take family ⟨a, b⟩ records, ?_, length, Share.filter_take _ records .v4,
        Share.filter_take _ records .v6, kept4, kept6, Share.gather_admitted _ records⟩
      rw [scanned, Collection.present_eq_ite, length]
    · rw [if_neg ip, scanned,
        Share.take_eq_nil (Record.family?_eq_none (Bool.eq_false_iff.2 ip))]
      rfl

end Pick

/-! ## Two limits -/

namespace Share

/-- The places that two shares both have. -/
def meet (share other : Share) : Share :=
  ⟨min share.v4 other.v4, min share.v6 other.v6⟩

theorem length_take_le (share : Share) (records : List α) :
    (share.take family records).length ≤ share.v4 + share.v6 := by
  induction records generalizing share with
  | nil => exact Nat.zero_le _
  | cons record rest ih =>
      rw [take]
      cases spent : share.spend? (family record) with
      | none => exact ih share
      | some left =>
          obtain ⟨has, cost⟩ := of_spend? spent
          obtain ⟨kind, known⟩ := Option.isSome_iff_exists.1 has
          have cost4 := cost .v4
          have cost6 := cost .v6
          have room := ih left
          rw [known] at cost4 cost6
          rw [List.length_cons]
          cases kind <;>
            simp only [of, reduceCtorEq, Option.some.injEq, if_true, if_false] at cost4 cost6 <;>
            omega

/-- A record finds room in what two shares both have if it finds room in each. -/
theorem spend?_meet (share other : Share) (kind : Option Family) :
    (share.meet other).spend? kind =
      (share.spend? kind).bind fun left => (other.spend? kind).map left.meet := by
  rcases kind with _ | (_ | _)
  · rfl
  all_goals
    simp only [spend?, meet, Nat.lt_min]
    grind [meet]

/-- Where the other share has no room, it does not matter that the first one had. -/
theorem meet_of_refused {share left other : Share} {kind : Option Family}
    (spent : share.spend? kind = some left) (refused : other.spend? kind = none) :
    left.meet other = share.meet other := by
  have cost := (of_spend? spent).2
  have full := spend?_eq_none_iff.1 refused
  have same (each : Family) : min (left.of each) (other.of each) =
      min (share.of each) (other.of each) := by
    by_cases this : kind = some each
    · rw [full each this, Nat.min_zero, Nat.min_zero]
    · rw [cost each, if_neg this, Nat.add_zero]
  unfold meet
  rw [mk.injEq]
  exact ⟨same .v4, same .v6⟩

/-- What one share keeps of what another one kept is what both have room for. -/
theorem take_take (share other : Share) (records : List α) :
    other.take family (share.take family records) = (share.meet other).take family records := by
  induction records generalizing share other with
  | nil => rfl
  | cons record rest ih =>
      rw [take, take, spend?_meet]
      cases spent : share.spend? (family record) with
      | none => exact ih share other
      | some left =>
          simp only [Option.bind_some, take]
          cases taken : other.spend? (family record) with
          | none => exact (ih left other).trans (by rw [meet_of_refused spent taken]; rfl)
          | some right => exact congrArg (record :: ·) (ih left right)

/-- A share that uses the limit up, gives no family more than it has, and departs from an
even split only for want of records: IPv6 has less than its half only if this is all it
has, and more only if IPv4 has all of its own. -/
structure Balanced (limit n4 n6 : Nat) (share : Share) : Prop where
  sum : share.v4 + share.v6 = limit
  within4 : share.v4 ≤ n4
  within6 : share.v6 ≤ n6
  less : share.v6 < limit / 2 → share.v6 = n6
  more : limit / 2 < share.v6 → share.v4 = n4

theorem balanced_fair {limit n4 n6 : Nat} (enough : limit ≤ n4 + n6) :
    Balanced limit n4 n6 (fair limit n4 n6) := by
  obtain ⟨within4, within6⟩ := fair_le enough
  refine ⟨fair_sum limit n4 n6, within4, within6, ?_, ?_⟩
  all_goals
    unfold fair
    dsimp only
    split
    · dsimp only; omega
    · split <;> dsimp only <;> omega

/-- No two shares are balanced, so this is what `fair` computes. -/
theorem Balanced.unique {limit n4 n6 : Nat} {share other : Share}
    (balanced : Balanced limit n4 n6 share) (another : Balanced limit n4 n6 other) :
    share = other := by
  obtain ⟨sum, within4, within6, less, more⟩ := balanced
  obtain ⟨sum', within4', within6', less', more'⟩ := another
  have same6 : share.v6 = other.v6 := by omega
  have same4 : share.v4 = other.v4 := by omega
  cases share
  cases other
  rw [mk.injEq]
  exact ⟨same4, same6⟩

/-- A tighter limit gives no family more places than a wider one. -/
theorem Balanced.mono {limit wider n4 n6 : Nat} (tighter : limit < wider) {share other : Share}
    (tight : Balanced limit n4 n6 share) (wide : Balanced wider n4 n6 other) :
    share.v4 ≤ other.v4 ∧ share.v6 ≤ other.v6 := by
  obtain ⟨sum, within4, within6, less, more⟩ := tight
  obtain ⟨sum', within4', within6', less', more'⟩ := wide
  constructor <;> omega

/-- A tighter limit shares what a wider one left as it shares all there was: a family that
it gives all it has lost nothing to the wider limit. -/
theorem fair_fair {limit wider n4 n6 : Nat} (tighter : limit < wider) (more : wider < n4 + n6) :
    fair limit (fair wider n4 n6).v4 (fair wider n4 n6).v6 = fair limit n4 n6 := by
  have wide := balanced_fair (Nat.le_of_lt more)
  have tight := balanced_fair (Nat.le_of_lt (Nat.lt_trans tighter more))
  obtain ⟨within4, within6⟩ := tight.mono tighter wide
  have again : limit ≤ (fair wider n4 n6).v4 + (fair wider n4 n6).v6 := by
    rw [fair_sum]
    exact Nat.le_of_lt tighter
  refine (balanced_fair again).unique ⟨tight.sum, within4, within6, fun less => ?_, fun extra => ?_⟩
  · exact Nat.le_antisymm within6 (Nat.le_trans wide.within6 (Nat.le_of_eq (tight.less less).symm))
  · exact Nat.le_antisymm within4 (Nat.le_trans wide.within4 (Nat.le_of_eq (tight.more extra).symm))

/-- So what both limits have room for is what the tighter one has. -/
theorem meet_fair {limit wider n4 n6 : Nat} (tighter : limit < wider) (more : wider < n4 + n6) :
    (fair wider n4 n6).meet (fair limit n4 n6) = fair limit n4 n6 := by
  obtain ⟨within4, within6⟩ :=
    (balanced_fair (Nat.le_of_lt (Nat.lt_trans tighter more))).mono tighter
      (balanced_fair (Nat.le_of_lt more))
  unfold meet
  rw [Nat.min_eq_right within4, Nat.min_eq_right within6]

end Share

namespace Pick

theorem select_atMost_of_short {limit : Nat} {records : List α} (short : records.length ≤ limit) :
    select family (.atMost limit) records = some records :=
  if_pos short

theorem select_atMost_of_long {limit : Nat} {records : List α} (long : limit < records.length) :
    select family (.atMost limit) records = Collection.present
      ((Share.fair limit (Share.count family .v4 records) (Share.count family .v6 records)).take
        family records) :=
  if_neg (Nat.not_le_of_lt long)

theorem length_le_of_select_atMost {limit : Nat} {records left : List α}
    (selected : select family (.atMost limit) records = some left) : left.length ≤ limit := by
  by_cases short : records.length ≤ limit
  · rw [select_atMost_of_short short] at selected
    obtain rfl := Option.some.inj selected
    exact short
  · rw [select_atMost_of_long (Nat.lt_of_not_le short)] at selected
    obtain ⟨rfl, -⟩ := Collection.present_eq_some_iff.1 selected
    exact Nat.le_trans (Share.length_take_le _ records) (Nat.le_of_eq (Share.fair_sum limit _ _))

/-- Where every record has a family, a limit makes of what a wider one left what it
makes of all there was. -/
theorem select_atMost_of_tighter (total : ∀ record, (family record).isSome) {limit wider : Nat}
    {records : List α} (tighter : limit < wider) (long : wider < records.length) :
    (select family (.atMost wider) records).bind (select family (.atMost limit)) =
      select family (.atMost limit) records := by
  let n4 := Share.count family .v4 records
  let n6 := Share.count family .v6 records
  let left := (Share.fair wider n4 n6).take family records
  have more : wider < n4 + n6 := by
    rw [Share.count_add_count total]
    exact long
  have length : left.length = wider := Share.length_take_fair total more
  have count4 : Share.count family .v4 left = (Share.fair wider n4 n6).v4 :=
    Share.count_take_fair more .v4
  have count6 : Share.count family .v6 left = (Share.fair wider n4 n6).v6 :=
    Share.count_take_fair more .v6
  have present : Collection.present left = some left :=
    Collection.present_eq_some_iff.2 ⟨rfl, List.ne_nil_of_length_pos (by omega)⟩
  have again : (Share.fair limit n4 n6).take family left =
      (Share.fair limit n4 n6).take family records :=
    (Share.take_take _ _ records).trans (by rw [Share.meet_fair tighter more])
  calc (select family (.atMost wider) records).bind (select family (.atMost limit))
      = (Collection.present left).bind (select family (.atMost limit)) := by
        rw [select_atMost_of_long long]
    _ = select family (.atMost limit) left := by rw [present, Option.bind_some]
    _ = Collection.present ((Share.fair limit n4 n6).take family left) := by
        rw [select_atMost_of_long (by omega), count4, count6, Share.fair_fair tighter more]
    _ = select family (.atMost limit) records := by
        rw [again, select_atMost_of_long (Nat.lt_trans tighter long)]

/-- Records without a family are left as they are or not at all. -/
theorem select_atMost_of_blind (blind : ∀ record, family record = none) {limit : Nat}
    {records : List α} (long : limit < records.length) :
    select family (.atMost limit) records = none := by
  rw [select_atMost_of_long long, Share.take_eq_nil blind]
  rfl

/-- Two limits one after the other are the smaller of them. -/
theorem select_atMost_bind (network : Network) (k m : Nat) (records : List network.Record) :
    let cap (limit : Nat) := select (Record.family? network) (.atMost limit)
    (cap m records).bind (cap k) = cap (min k m) records := by
  intro cap
  rcases Nat.lt_or_ge k m with tighter | wider
  · rw [Nat.min_eq_left (Nat.le_of_lt tighter)]
    by_cases short : records.length ≤ m
    · rw [show cap m records = some records from select_atMost_of_short short, Option.bind_some]
    · have long := Nat.lt_of_not_le short
      by_cases ip : network.hasIp
      · exact select_atMost_of_tighter (Record.family?_isSome ip) tighter long
      · have blind := Record.family?_eq_none (Bool.eq_false_iff.2 ip)
        rw [show cap m records = none from select_atMost_of_blind blind long,
          show cap k records = none from select_atMost_of_blind blind (Nat.lt_trans tighter long)]
        rfl
  · rw [Nat.min_eq_right wider]
    cases left : cap m records with
    | none => rfl
    | some kept =>
        exact select_atMost_of_short (Nat.le_trans (length_le_of_select_atMost left) wider)

/-- **Limits compose to the tighter one.**  Over every network and for every collection,
absent or not, to cap what a cap left is to cap by the smaller limit.  So a cap changes
nothing the second time, the order of two caps does not matter, and what the smaller
limit leaves is part, in order, of what the larger one leaves. -/
theorem cap_of_cap (network : Network) (k m : Nat) (value : Option (List network.Record)) :
    let cap (limit : Nat) := apply (Record.family? network) (.atMost limit)
    cap k (cap m value) = cap (min k m) value ∧
    cap k (cap k value) = cap k value ∧
    cap k (cap m value) = cap m (cap k value) ∧
    ((cap (min k m) value).getD []).Sublist ((cap m value).getD []) := by
  intro cap
  have compose (k m : Nat) : cap k (cap m value) = cap (min k m) value := by
    cases value with
    | none => rfl
    | some records => exact select_atMost_bind network k m records
  refine ⟨compose k m, ?_, ?_, ?_⟩
  · rw [compose, Nat.min_self]
  · rw [compose, compose, Nat.min_comm]
  · rw [← compose]
    cases left : cap m value with
    | none => exact .slnil
    | some kept =>
        cases again : cap k (some kept) with
        | none => exact List.nil_sublist kept
        | some picked =>
            have keepsOrder : Pick.atMost k ≠ .reverse := nofun
            exact select_sublist keepsOrder again

end Pick

end DialSelect
