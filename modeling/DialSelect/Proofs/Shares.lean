/-
# DialSelect.Proofs.Shares -- what a share keeps

Taking a share is one forward scan with a counter for each family.  What the scan
keeps has two descriptions that do not mention the counters:

* of each family, the front of that family's own records (`Share.filter_take`);
* of each position, whether fewer records of its family stand before it than the
  family may have (`Share.gather_admitted`).

Both go by induction on the records from `Share.of_spend?`: one record costs its own
family one place and the other family nothing.  A fair share is feasible as soon as
there are as many records as the limit (`Share.fair_le`), and where there are more, it is
used up (`Share.length_take_fair`).
-/
import DialSelect.Proofs.Naturality

namespace DialSelect.Share

set_option autoImplicit false

variable {α : Type} {family : α → Option Family}

def of (share : Share) : Family → Nat
  | .v4 => share.v4
  | .v6 => share.v6

/-- A record is refused when its family, if it has one, has no place left. -/
theorem spend?_eq_none_iff {share : Share} {kind : Option Family} :
    share.spend? kind = none ↔ ∀ each, kind = some each → share.of each = 0 := by
  rcases kind with _ | (_ | _) <;> simp [spend?, of]

/-- A record that is kept has a family, which has one place less from then on. -/
theorem of_spend? {share left : Share} {kind : Option Family}
    (spent : share.spend? kind = some left) :
    kind.isSome ∧ ∀ each, share.of each = left.of each + if kind = some each then 1 else 0 := by
  rcases kind with _ | (_ | _)
  · simp [spend?] at spent
  all_goals
    simp only [spend?, Option.ite_none_right_eq_some, Option.some.injEq] at spent
    obtain ⟨room, rfl⟩ := spent
    refine ⟨rfl, fun each => ?_⟩
    cases each <;> simp [of]
    omega

/-- Of each family, a share keeps the front. -/
theorem filter_take (share : Share) (records : List α) (kind : Family) :
    (share.take family records).filter (family · = some kind) =
      (records.filter (family · = some kind)).take (share.of kind) := by
  induction records generalizing share with
  | nil => simp [take]
  | cons record rest ih =>
      rw [take]
      cases spent : share.spend? (family record) with
      | none =>
          by_cases same : family record = some kind
          · have full := spend?_eq_none_iff.1 spent kind same
            simp only [ih, full, List.take_zero]
          · simp only [ih, List.filter_cons, same, decide_false, Bool.false_eq_true, if_false]
      | some left =>
          have cost := (of_spend? spent).2 kind
          by_cases same : family record = some kind
          · simp only [same, if_true] at cost
            simp only [List.filter_cons, same, decide_true, if_true, cost, List.take_succ_cons, ih]
          · simp only [same, if_false, Nat.add_zero] at cost
            simp only [List.filter_cons, same, decide_false, Bool.false_eq_true, if_false, cost,
              ih]

theorem count_cons (record : α) (rest : List α) (kind : Family) :
    count family kind (record :: rest) =
      count family kind rest + if family record = some kind then 1 else 0 := by
  unfold count
  rw [List.countP_cons]
  simp only [decide_eq_true_eq]

/-- Of each family, a share keeps its places or all there are. -/
theorem count_take (share : Share) (records : List α) (kind : Family) :
    count family kind (share.take family records) =
      min (share.of kind) (count family kind records) := by
  unfold count
  rw [List.countP_eq_length_filter, filter_take, List.length_take,
    ← List.countP_eq_length_filter]

/-- Where every record has a family, the two families make up the collection. -/
theorem count_add_count (total : ∀ record, (family record).isSome) (records : List α) :
    count family .v4 records + count family .v6 records = records.length := by
  induction records with
  | nil => rfl
  | cons record rest ih =>
      obtain ⟨kind, has⟩ := Option.isSome_iff_exists.1 (total record)
      rw [count_cons, count_cons, has, List.length_cons, ← ih]
      cases kind <;> simp <;> omega

/-! ## Positions -/

/-- A share has room for the record at a position: fewer records of its family
stand before it than the family may have. -/
def admits (family : α → Option Family) (share : Share) (records : List α) (index : Nat) : Bool :=
  match Collection.familyAt family records index with
  | some kind => count family kind (records.take index) < share.of kind
  | none => false

theorem admits_zero (share : Share) (record : α) (rest : List α) :
    share.admits family (record :: rest) 0 = (share.spend? (family record)).isSome := by
  have here : Collection.familyAt family (record :: rest) 0 = family record := rfl
  unfold admits
  rw [here]
  rcases family record with _ | (_ | _)
  · rfl
  all_goals
    simp only [List.take_zero, count, List.countP_nil, of, spend?]
    split <;> simp [*]

/-- Behind its first record a collection has room as that record leaves it. -/
theorem admits_succ (share : Share) (record : α) (rest : List α) (index : Nat) :
    share.admits family (record :: rest) (index + 1) =
      ((share.spend? (family record)).getD share).admits family rest index := by
  have behind : Collection.familyAt family (record :: rest) (index + 1) =
      Collection.familyAt family rest index := rfl
  unfold admits
  rw [behind]
  cases Collection.familyAt family rest index with
  | none => rfl
  | some kind =>
      simp only [List.take_succ_cons, count_cons]
      cases spent : share.spend? (family record) with
      | none =>
          by_cases same : family record = some kind
          · have full := spend?_eq_none_iff.1 spent kind same
            simp [full]
          · simp [same]
      | some left =>
          simp only [(of_spend? spent).2 kind, Nat.add_lt_add_iff_right, Option.getD_some]

/-- A share keeps the records at the positions it has room for. -/
theorem gather_admitted (share : Share) (records : List α) :
    Collection.gather records
      ((List.range records.length).filter (share.admits family records)) =
        .ok (share.take family records) := by
  rw [Collection.gather_eq_ok_iff]
  induction records generalizing share with
  | nil => rfl
  | cons record rest ih =>
      have behind : (share.admits family (record :: rest)) ∘ Nat.succ =
          ((share.spend? (family record)).getD share).admits family rest :=
        funext (admits_succ share record rest)
      rw [List.length_cons, List.range_succ_eq_map, List.filter_cons, List.filter_map, behind,
        admits_zero, take]
      cases share.spend? (family record) with
      | none =>
          simp only [Option.isSome_none, Bool.false_eq_true, if_false, List.map_map,
            Option.getD_none]
          exact ih share
      | some left =>
          simp only [Option.isSome_some, if_true, List.map_cons, List.map_map, Option.getD_some]
          exact congrArg (some record :: ·) (ih left)

/-! ## Fair shares -/

/-- Where there are as many records as the limit, a fair share gives no family more
places than it has records. -/
theorem fair_le {max n4 n6 : Nat} (enough : max ≤ n4 + n6) :
    (fair max n4 n6).v4 ≤ n4 ∧ (fair max n4 n6).v6 ≤ n6 := by
  unfold fair
  dsimp only
  split
  · exact ⟨by dsimp only; omega, Nat.le_refl n6⟩
  · split <;> dsimp only <;> omega

/-- A fair share of a longer collection is given out as it is. -/
theorem count_take_fair {max : Nat} {records : List α}
    (more : max < count family .v4 records + count family .v6 records) (kind : Family) :
    let share := fair max (count family .v4 records) (count family .v6 records)
    count family kind (share.take family records) = share.of kind := by
  intro share
  obtain ⟨enough4, enough6⟩ := fair_le (Nat.le_of_lt more)
  rw [count_take]
  cases kind with
  | v4 => exact Nat.min_eq_left enough4
  | v6 => exact Nat.min_eq_left enough6

/-- Of a longer collection a fair share keeps as many records as the limit allows. -/
theorem length_take_fair (total : ∀ record, (family record).isSome) {max : Nat}
    {records : List α} (more : max < count family .v4 records + count family .v6 records) :
    let share := fair max (count family .v4 records) (count family .v6 records)
    (share.take family records).length = max := by
  intro share
  rw [← count_add_count total, count_take_fair more, count_take_fair more]
  exact fair_sum max _ _

end DialSelect.Share
