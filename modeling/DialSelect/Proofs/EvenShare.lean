/-
# DialSelect.Proofs.EvenShare -- no share is more even than a fair one

A fair share is computed by one subtraction, in each of its three cases from the limit.  What is
subtracted is at most half of the limit, so in machine words the subtraction never goes below
zero and computes the same share (`Share.exists_fairWords`).

A split of a limit uses it up and gives no family more than it has.  A fair share departs from
equal halves only for want of records (`Share.Balanced`).  So wherever there are as many records
as the limit, it is a split, and every other split is further from equal halves, or for an odd
limit as far but with the odd record in the hands of IPv6 (`Share.Balanced.evener`).
-/
import DialSelect.Proofs.Cap

namespace DialSelect.Share

set_option autoImplicit false

/-! ## Machine words -/

/-- The difference of two words, if it does not go below zero. -/
def difference? (a b : UInt64) : Option UInt64 :=
  if b ≤ a then some (a - b) else none

/-- A fair share in machine words, if no difference goes below zero. -/
def fairWords? (limit n4 n6 : UInt64) : Option (UInt64 × UInt64) :=
  let half := limit / 2
  if n6 ≤ half then (difference? limit n6).map fun rest => (rest, n6)
  else if n4 ≤ half then (difference? limit n4).map fun rest => (n4, rest)
  else (difference? limit half).map fun rest => (rest, half)

theorem difference?_of_le {a b : UInt64} (within : b.toNat ≤ a.toNat) :
    ∃ rest, difference? a b = some rest ∧ rest.toNat = a.toNat - b.toNat := by
  have le : b ≤ a := UInt64.le_iff_toNat_le.2 within
  exact ⟨a - b, if_pos le, UInt64.toNat_sub_of_le a b le⟩

/-- Words compute the fair share. -/
theorem exists_fairWords (limit n4 n6 : UInt64) :
    ∃ q4 q6, fairWords? limit n4 n6 = some (q4, q6) ∧
      fair limit.toNat n4.toNat n6.toNat = ⟨q4.toNat, q6.toNat⟩ := by
  have half : (limit / 2).toNat = limit.toNat / 2 := UInt64.toNat_div limit 2
  have within : limit.toNat / 2 ≤ limit.toNat := Nat.div_le_self _ _
  simp only [fairWords?, fair, UInt64.le_iff_toNat_le, half]
  split
  · rename_i scarce
    obtain ⟨rest, computed, value⟩ := difference?_of_le (Nat.le_trans scarce within)
    exact ⟨rest, n6, by rw [computed]; rfl, by rw [value]⟩
  · split
    · rename_i scarce
      obtain ⟨rest, computed, value⟩ := difference?_of_le (Nat.le_trans scarce within)
      exact ⟨n4, rest, by rw [computed]; rfl, by rw [value]⟩
    · obtain ⟨rest, computed, value⟩ := difference?_of_le (half ▸ within)
      exact ⟨rest, limit / 2, by rw [computed]; rfl, by rw [value, half]⟩

/-! ## Splits -/

/-- A share uses a limit up and gives no family more than it has. -/
structure Splits (limit n4 n6 : Nat) (share : Share) : Prop where
  sum : share.v4 + share.v6 = limit
  within4 : share.v4 ≤ n4
  within6 : share.v6 ≤ n6

/-- How far apart the places of the families are. -/
def gap (share : Share) : Nat :=
  ((share.v4 : Int) - share.v6).natAbs

theorem Balanced.splits {limit n4 n6 : Nat} {share : Share}
    (balanced : Balanced limit n4 n6 share) : Splits limit n4 n6 share :=
  ⟨balanced.sum, balanced.within4, balanced.within6⟩

/-- Splits differ in the places of IPv6, since these decide those of IPv4. -/
theorem Splits.v6_ne {limit n4 n6 : Nat} {share other : Share} (split : Splits limit n4 n6 share)
    (another : Splits limit n4 n6 other) (different : other ≠ share) : other.v6 ≠ share.v6 := by
  intro same
  have sum := split.sum
  have sum' := another.sum
  have same4 : other.v4 = share.v4 := by omega
  cases other
  cases share
  exact different (by rw [mk.injEq]; exact ⟨same4, same⟩)

/-- Every split but the balanced one is less even, or as even with less for IPv4. -/
theorem Balanced.evener {limit n4 n6 : Nat} {share other : Share}
    (balanced : Balanced limit n4 n6 share) (another : Splits limit n4 n6 other)
    (different : other ≠ share) :
    share.gap < other.gap ∨ share.gap = other.gap ∧ limit % 2 = 1 ∧ other.v4 < share.v4 := by
  have apart := balanced.splits.v6_ne another different
  obtain ⟨sum, -, -, less, more⟩ := balanced
  obtain ⟨sum', within4, within6⟩ := another
  unfold gap
  rcases Nat.lt_or_gt_of_ne apart with fewer | further
  · -- IPv4 has room for more, so what the balanced split gives IPv6 is no more than half
    have low : share.v6 ≤ limit / 2 := by
      refine Nat.le_of_not_lt fun high => ?_
      have full := more high
      omega
    omega
  · -- IPv6 has room for more, so what the balanced split gives it is no less than half
    have high : limit / 2 ≤ share.v6 := by
      refine Nat.le_of_not_lt fun low => ?_
      have full := less low
      omega
    omega

/-- **A fair share is the most even split.**  Machine words compute it, since no difference goes
below zero, and it gives out the whole limit.  Where there are as many records as the limit, it
gives no family more than it has, and of all splits that do so its places are the least far
apart.  No other split is as even, unless the limit is odd: then the fair share is the one with
more for IPv4. -/
theorem fair_evenest (limit n4 n6 : UInt64) :
    ∃ q4 q6, fairWords? limit n4 n6 = some (q4, q6) ∧
      let share : Share := ⟨q4.toNat, q6.toNat⟩
      fair limit.toNat n4.toNat n6.toNat = share ∧ share.v4 + share.v6 = limit.toNat ∧
      (limit.toNat ≤ n4.toNat + n6.toNat →
        Splits limit.toNat n4.toNat n6.toNat share ∧
        ∀ other, Splits limit.toNat n4.toNat n6.toNat other → other ≠ share →
          share.gap < other.gap ∨
            share.gap = other.gap ∧ limit.toNat % 2 = 1 ∧ other.v4 < share.v4) := by
  obtain ⟨q4, q6, computed, same⟩ := exists_fairWords limit n4 n6
  refine ⟨q4, q6, computed, same, ?_, fun enough => ?_⟩
  · rw [← same]
    exact fair_sum _ _ _
  · have balanced := balanced_fair enough
    rw [same] at balanced
    exact ⟨balanced.splits, fun other split different => balanced.evener split different⟩

/-- The largest limit there is, with as many records of each family: IPv4 has the odd one, and
the split in which IPv6 has it is as even. -/
theorem fair_evenest_largest :
    ∃ limit q4 q6 : UInt64, limit.toNat = UInt64.size - 1 ∧
      q4.toNat = UInt64.size / 2 ∧ q6.toNat = UInt64.size / 2 - 1 ∧
      fairWords? limit limit limit = some (q4, q6) ∧
      limit.toNat ≤ limit.toNat + limit.toNat ∧
      Splits limit.toNat limit.toNat limit.toNat ⟨q4.toNat, q6.toNat⟩ ∧
      gap ⟨q4.toNat, q6.toNat⟩ = 1 ∧ gap ⟨q6.toNat, q4.toNat⟩ = 1 ∧
      ∀ other, Splits limit.toNat limit.toNat limit.toNat other → other ≠ ⟨q4.toNat, q6.toNat⟩ →
        1 ≤ other.gap ∧ (other.gap = 1 → other.v4 < q4.toNat) := by
  let limit : UInt64 := 0xFFFFFFFFFFFFFFFF
  obtain ⟨q4, q6, computed, -, -, most⟩ := fair_evenest limit limit limit
  have words : fairWords? limit limit limit = some (0x8000000000000000, 0x7FFFFFFFFFFFFFFF) := by
    decide
  obtain ⟨rfl, rfl⟩ := Prod.mk.inj (Option.some.inj (computed.symm.trans words))
  have enough : limit.toNat ≤ limit.toNat + limit.toNat := Nat.le_add_left _ _
  have even : gap ⟨(0x8000000000000000 : UInt64).toNat, (0x7FFFFFFFFFFFFFFF : UInt64).toNat⟩ = 1 :=
    by decide
  obtain ⟨splits, others⟩ := most enough
  refine ⟨limit, _, _, rfl, rfl, rfl, computed, enough, splits, even, by decide, ?_⟩
  intro other split different
  rcases others other split different with further | ⟨same, -, fewer⟩
  · rw [even] at further
    exact ⟨Nat.le_of_lt further, fun one => absurd one (Nat.ne_of_gt further)⟩
  · rw [even] at same
    exact ⟨Nat.le_of_eq same, fun _ => fewer⟩

end DialSelect.Share
