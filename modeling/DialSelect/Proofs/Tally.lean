/-
# DialSelect.Proofs.Tally -- how many records of each family are left

Where every record has a family, a rule other than `first` acts on the numbers of
records alone: `Pick.leaves` says what it makes of them (`Pick.tally_select`).
Reordering changes no number.  So the numbers that a chain leaves are those that its
rules, one after the other, make of the numbers it received (`Chain.tally_apply`), and
how the records are ordered, what the permuter answers and where the chain reorders
makes no difference to them (`Chain.tally_eq_of_rules`).
-/
import DialSelect.Proofs.Shares
import DialSelect.Proofs.Positions

namespace DialSelect

set_option autoImplicit false

variable {α σ : Type} {family : α → Option Family}

/-- How many records of each family there are. -/
def Share.tally (family : α → Option Family) (records : List α) : Share :=
  ⟨count family .v4 records, count family .v6 records⟩

def Share.one : Family → Share
  | .v4 => ⟨1, 0⟩
  | .v6 => ⟨0, 1⟩

def Share.only (share : Share) : Family → Share
  | .v4 => ⟨share.v4, 0⟩
  | .v6 => ⟨0, share.v6⟩

/-- What a rule makes of the numbers of records.  Only `first` depends on the order;
it is told for a collection with its IPv4 records in front. -/
def Pick.leaves (rule : Pick) (n : Share) : Option Share :=
  match rule with
  | .default | .first => some (if 0 < n.v4 then ⟨1, 0⟩ else ⟨0, min 1 n.v6⟩)
  | .all | .reverse => some n
  | .firstEach => some ⟨min 1 n.v4, min 1 n.v6⟩
  | .firstOf kind => if 0 < n.of kind then some (Share.one kind) else none
  | .only kind => if 0 < n.of kind then some (n.only kind) else none
  | .atMost max =>
      if n.v4 + n.v6 ≤ max then some n
      else if max = 0 then none
      else some (Share.fair max n.v4 n.v6)

namespace Share

theorem sum_only (share : Share) (kind : Family) :
    (share.only kind).v4 + (share.only kind).v6 = share.of kind := by
  cases kind
  · exact Nat.add_zero share.v4
  · exact Nat.zero_add share.v6

theorem sum_tally (total : ∀ record, (family record).isSome) (records : List α) :
    (tally family records).v4 + (tally family records).v6 = records.length :=
  count_add_count total records

theorem tally_perm {records others : List α} (same : records.Perm others) :
    tally family records = tally family others := by
  simp only [tally, count, same.countP_eq]

theorem of_tally (records : List α) (kind : Family) :
    (tally family records).of kind = count family kind records := by
  cases kind <;> rfl

theorem tally_singleton {record : α} {kind : Family} (has : family record = some kind) :
    tally family [record] = one kind := by
  cases kind <;> simp [tally, one, count, has]

theorem tally_take (share : Share) (records : List α) :
    tally family (share.take family records) =
      ⟨min share.v4 (count family .v4 records), min share.v6 (count family .v6 records)⟩ := by
  simp only [tally, count_take, of]

theorem tally_take_fair {max : Nat} {records : List α}
    (more : max < count family .v4 records + count family .v6 records) :
    let share := fair max (count family .v4 records) (count family .v6 records)
    tally family (share.take family records) = share := by
  intro share
  rw [tally, count_take_fair more, count_take_fair more]
  rfl

theorem count_filter (records : List α) (kind each : Family) :
    count family each (records.filter (family · = some kind)) =
      if each = kind then count family kind records else 0 := by
  unfold count
  rw [List.countP_filter]
  split
  · rename_i same
    subst same
    simp only [Bool.and_self]
  · rename_i differ
    refine List.countP_eq_zero.2 fun record _ both => differ ?_
    simp only [Bool.and_eq_true, decide_eq_true_eq] at both
    exact Option.some.inj (both.1.symm.trans both.2)

theorem tally_filter (records : List α) (kind : Family) :
    tally family (records.filter (family · = some kind)) = (tally family records).only kind := by
  unfold tally
  rw [count_filter, count_filter]
  cases kind <;> rfl

end Share

namespace Pick

theorem firstRecord?_eq_none_iff {kind : Family} {records : List α} :
    firstRecord? family kind records = none ↔ Share.count family kind records = 0 := by
  simp [firstRecord?, Share.count]

theorem tally_firstRecord? (records : List α) (kind : Family) :
    ((firstRecord? family kind records).map ([·])).map (Share.tally family) =
      if 0 < (Share.tally family records).of kind then some (Share.one kind) else none := by
  rw [Share.of_tally]
  cases found : firstRecord? family kind records with
  | none =>
      have absent := firstRecord?_eq_none_iff.1 found
      simp [absent]
  | some record =>
      have has : family record = some kind := by simpa using List.find?_some found
      have present : 0 < Share.count family kind records :=
        Nat.pos_of_ne_zero (mt firstRecord?_eq_none_iff.2 (found ▸ Option.some_ne_none record))
      simp only [Option.map_some, Share.tally_singleton has, present, if_true]

theorem tally_present (total : ∀ record, (family record).isSome) (kept : List α) :
    (Collection.present kept).map (Share.tally family) =
      if 0 < (Share.tally family kept).v4 + (Share.tally family kept).v6
      then some (Share.tally family kept) else none := by
  rw [Share.sum_tally total]
  cases kept <;> rfl

/-- Looking at a collection, the default choice is the first IPv4 record, or else the
first IPv6 record. -/
theorem select_default_of_long {records : List α} (long : ¬records.length ≤ 1) :
    select family .default records =
      (select family (.firstOf .v4) records).or (select family (.firstOf .v6) records) := by
  simp only [select, long, if_false]
  cases firstRecord? family .v4 records <;> rfl

variable (total : ∀ record, (family record).isSome) (records : List α)
include total

theorem tally_default :
    (select family .default records).map (Share.tally family) =
      leaves .default (Share.tally family records) := by
  have sum := Share.sum_tally total records
  by_cases long : records.length ≤ 1
  · simp only [select, leaves, long, if_true, Option.map_some, Option.some.injEq]
    generalize Share.tally family records = n at sum ⊢
    obtain ⟨n4, n6⟩ := n
    dsimp only at sum ⊢
    split <;> rw [Share.mk.injEq] <;> omega
  · rw [select_default_of_long long, Option.map_or]
    simp only [select, tally_firstRecord?, leaves]
    generalize Share.tally family records = n at sum ⊢
    by_cases four : 0 < n.of .v4
    · rw [if_pos four, if_pos (show 0 < n.v4 from four)]
      rfl
    · have none4 : ¬0 < n.v4 := four
      have some6 : 0 < n.of .v6 := show 0 < n.v6 by omega
      rw [if_neg four, if_neg none4, if_pos some6, Nat.min_eq_left (show 1 ≤ n.v6 from some6)]
      rfl

theorem tally_firstEach :
    (select family .firstEach records).map (Share.tally family) =
      leaves .firstEach (Share.tally family records) := by
  have sum := Share.sum_tally total records
  simp only [select, leaves]
  split
  · simp only [Option.map_some, Option.some.injEq]
    generalize Share.tally family records = n at sum ⊢
    obtain ⟨n4, n6⟩ := n
    dsimp only at sum ⊢
    rw [Share.mk.injEq]
    omega
  · rw [tally_present total, Share.tally_take]
    refine if_pos ?_
    simp only [Share.tally] at sum ⊢
    omega

theorem tally_atMost (max : Nat) :
    (select family (.atMost max) records).map (Share.tally family) =
      leaves (.atMost max) (Share.tally family records) := by
  have sum := Share.sum_tally total records
  simp only [select, leaves, sum]
  split
  · rfl
  · rename_i long
    have more : max < Share.count family .v4 records + Share.count family .v6 records := by
      rw [Share.count_add_count total]
      exact Nat.lt_of_not_le long
    rw [tally_present total, Share.tally_take_fair more, Share.fair_sum]
    by_cases zero : max = 0
    · rw [if_neg (by omega), if_pos zero]
    · rw [if_pos (by omega), if_neg zero]
      rfl

/-- **A rule other than `first` acts on the numbers of records alone.** -/
theorem tally_select {rule : Pick} (notFirst : rule ≠ .first) :
    (rule.select family records).map (Share.tally family) =
      rule.leaves (Share.tally family records) := by
  cases rule with
  | default => exact tally_default total records
  | all => rfl
  | first => exact absurd rfl notFirst
  | firstEach => exact tally_firstEach total records
  | firstOf kind => exact tally_firstRecord? records kind
  | only kind =>
      simp only [select, leaves]
      rw [tally_present total, Share.tally_filter, Share.sum_only]
  | atMost max => exact tally_atMost total records max
  | reverse => exact congrArg some (Share.tally_perm records.reverse_perm)

omit total

/-- What rules, one after the other, make of the numbers of records. -/
def leavesAll (rules : List Pick) (n : Option Share) : Option Share :=
  rules.foldl (fun n rule => n.bind rule.leaves) n

end Pick

/-- The rule of a stage that chooses; a stage that reorders has none. -/
def Stage.rule? : Stage → Option Pick
  | .pick rule => if rule = .reverse then none else some rule
  | .shuffle => none
  | .arrange _ => none

/-- The rules of a chain that choose, at every level, in the order they are applied. -/
def Chain.rules (chain : Chain) : List Pick :=
  chain.flatten.filterMap Stage.rule?

variable {permuter : Permuter σ}

namespace Stage

theorem rule?_eq_none_iff {stage : Stage} : stage.rule? = none ↔ stage.reorders := by
  cases stage <;> simp [rule?, reorders]

theorem rule?_eq_some {stage : Stage} {rule : Pick} (chooses : stage.rule? = some rule) :
    stage = .pick rule := by
  cases stage with
  | pick other =>
      simp only [rule?, Option.ite_none_left_eq_some, Option.some.injEq] at chooses
      rw [chooses.2]
  | shuffle => cases chooses
  | arrange order => cases chooses

/-- A stage makes of the numbers of records what its rule makes of them. -/
theorem tally_apply (total : ∀ record, (family record).isSome) (drawn : permuter.Fair)
    {stage : Stage} (fair : stage.Fair) (notFirst : stage.rule? ≠ some .first)
    (value : Option (List α)) (state : σ) :
    ∃ here, stage.apply family permuter value state = .ok here ∧
      here.value.map (Share.tally family) =
        Pick.leavesAll stage.rule?.toList (value.map (Share.tally family)) := by
  cases value with
  | none => exact ⟨_, rfl, by cases stage.rule? <;> rfl⟩
  | some records =>
      cases chooses : stage.rule? with
      | none =>
          obtain ⟨here, picked, applied, left, same⟩ :=
            apply_reorder family drawn fair (rule?_eq_none_iff.1 chooses) records state
          refine ⟨here, applied, ?_⟩
          rw [left]
          exact congrArg some (Share.tally_perm same)
      | some rule =>
          obtain rfl := rule?_eq_some chooses
          have notFirst : rule ≠ .first := fun first => notFirst (chooses.trans (by rw [first]))
          exact ⟨_, rfl, Pick.tally_select total records notFirst⟩

theorem tally_applyAll (total : ∀ record, (family record).isSome) (drawn : permuter.Fair)
    {stages : List Stage} (fair : ∀ stage ∈ stages, stage.Fair)
    (noFirst : .first ∉ stages.filterMap rule?) (value : Option (List α)) (state : σ) :
    ∃ final, applyAll family permuter stages value state = .ok final ∧
      final.1.map (Share.tally family) =
        Pick.leavesAll (stages.filterMap rule?) (value.map (Share.tally family)) := by
  induction stages generalizing value state with
  | nil => exact ⟨(value, state), rfl, rfl⟩
  | cons stage rest ih =>
      have split : (stage :: rest).filterMap rule? =
          stage.rule?.toList ++ rest.filterMap rule? := by
        rw [List.filterMap_cons]
        cases stage.rule? <;> rfl
      rw [split, List.mem_append, not_or] at noFirst
      have notFirst : stage.rule? ≠ some .first := fun first =>
        noFirst.1 (Option.mem_toList.2 first)
      obtain ⟨here, applied, counted⟩ := tally_apply total drawn
        (fair stage List.mem_cons_self) notFirst value state
      obtain ⟨final, finished, numbers⟩ := ih
        (fun later member => fair later (List.mem_cons_of_mem stage member)) noFirst.2
        here.value here.state
      refine ⟨final, ?_, ?_⟩
      · rw [applyAll, applied]
        exact finished
      · rw [numbers, counted, split, Pick.leavesAll, Pick.leavesAll, Pick.leavesAll,
          List.foldl_append]

end Stage

namespace Chain

/-- The numbers of records that a chain leaves are what its rules make of those it
received. -/
theorem tally_apply (total : ∀ record, (family record).isSome) (drawn : permuter.Fair)
    {chain : Chain} (fair : chain.Fair) (noFirst : .first ∉ chain.rules)
    (value : Option (List α)) (state : σ) :
    ∃ applied, chain.apply family permuter value state = .ok applied ∧
      applied.value.map (Share.tally family) =
        Pick.leavesAll chain.rules (value.map (Share.tally family)) := by
  obtain ⟨final, finished, numbers⟩ := Stage.tally_applyAll total drawn fair noFirst value state
  obtain ⟨applied, ended, rfl⟩ := apply_eq_ok finished
  exact ⟨applied, ended, numbers⟩

/-- **Order and randomness change no number.**  Take two chains with the same rules,
none of them `first`: they may reorder where they like, nest as they like and shuffle
by any fair permuters.  Of collections with the same numbers of IPv4 and of IPv6
records, over networks with addresses, both leave nothing, or the same numbers of
each. -/
theorem tally_eq_of_rules {τ : Type} {p : Permuter σ} {q : Permuter τ} {chain twin : Chain}
    (drawn : p.Fair) (drawnTwin : q.Fair) (fair : chain.Fair) (fairTwin : twin.Fair)
    (rules : chain.rules = twin.rules) (noFirst : .first ∉ chain.rules)
    {network other : Network} (ip : network.hasIp) (ipOther : other.hasIp)
    {records : List network.Record} {others : List other.Record}
    (same4 : Share.count (Record.family? network) .v4 records =
      Share.count (Record.family? other) .v4 others)
    (same6 : Share.count (Record.family? network) .v6 records =
      Share.count (Record.family? other) .v6 others) (s : σ) (t : τ) :
    ∃ here there,
      chain.apply (Record.family? network) p (some records) s = .ok here ∧
      twin.apply (Record.family? other) q (some others) t = .ok there ∧
      ((here.value = none ∧ there.value = none) ∨ ∃ left right,
        here.value = some left ∧ there.value = some right ∧
        Share.count (Record.family? network) .v4 left =
          Share.count (Record.family? other) .v4 right ∧
        Share.count (Record.family? network) .v6 left =
          Share.count (Record.family? other) .v6 right) := by
  obtain ⟨here, ranHere, numbers⟩ :=
    tally_apply (Record.family?_isSome ip) drawn fair noFirst (some records) s
  obtain ⟨there, ranThere, numbersThere⟩ :=
    tally_apply (Record.family?_isSome ipOther) drawnTwin fairTwin (rules ▸ noFirst)
      (some others) t
  have start : Share.tally (Record.family? network) records =
      Share.tally (Record.family? other) others :=
    congr (congrArg Share.mk same4) same6
  have equal : here.value.map (Share.tally (Record.family? network)) =
      there.value.map (Share.tally (Record.family? other)) := by
    rw [numbers, numbersThere, rules, Option.map_some, Option.map_some, start]
  refine ⟨here, there, ranHere, ranThere, ?_⟩
  cases left : here.value with
  | none =>
      rw [left] at equal
      exact .inl ⟨rfl, Option.map_eq_none_iff.1 equal.symm⟩
  | some picked =>
      rw [left] at equal
      obtain ⟨chosen, right, numbers⟩ := Option.map_eq_some_iff.1 equal.symm
      exact .inr ⟨picked, chosen, rfl, right, (congrArg Share.v4 numbers).symm,
        (congrArg Share.v6 numbers).symm⟩

/-- A shuffle, and at most two records of what it hands on. -/
def shuffledCap : Chain :=
  .stage .shuffle (.stage (.pick (.atMost 2)) .nil)

theorem shuffledCap_fair : shuffledCap.Fair := by
  intro stage member
  simp only [shuffledCap, flatten, List.mem_cons, List.not_mem_nil, or_false] at member
  rcases member with rfl | rfl <;> trivial

theorem tally_eq_of_rules_sockets :
    Permuter.still.Fair ∧ Permuter.seeded.Fair ∧ cappedMirror.Fair ∧ shuffledCap.Fair ∧
    cappedMirror.rules = shuffledCap.rules ∧ .first ∉ cappedMirror.rules ∧
    Network.tcp.hasIp ∧
    Share.tally (Record.family? .tcp) Collection.sockets =
      Share.tally (Record.family? .tcp) Collection.sockets.reverse ∧
    ∃ here there,
      cappedMirror.apply (Record.family? .tcp) .still (some Collection.sockets) () = .ok here ∧
      shuffledCap.apply (Record.family? .tcp) .seeded (some Collection.sockets.reverse)
        (.ofSeed 7) = .ok there ∧
      ((here.value = none ∧ there.value = none) ∨ ∃ left right,
        here.value = some left ∧ there.value = some right ∧
        Share.count (Record.family? .tcp) .v4 left = Share.count (Record.family? .tcp) .v4 right ∧
        Share.count (Record.family? .tcp) .v6 left =
          Share.count (Record.family? .tcp) .v6 right) := by
  have rules : cappedMirror.rules = shuffledCap.rules := rfl
  have noFirst : .first ∉ cappedMirror.rules := by decide
  exact ⟨Permuter.still_fair, Permuter.seeded_fair, cappedMirror_fair, shuffledCap_fair, rules,
    noFirst, rfl, rfl, tally_eq_of_rules Permuter.still_fair Permuter.seeded_fair
      cappedMirror_fair shuffledCap_fair rules noFirst rfl rfl rfl rfl () (.ofSeed 7)⟩

end Chain

end DialSelect
