/-
# DialSelect.Share -- how many records of each family

A share says how many IPv4 and how many IPv6 records may still be taken.  Taking
a share from a collection is one forward scan that keeps a record while its
family has something left, so what is kept stays in order and is the front of
each family's own sequence.

`Share.fair` splits a limit: each family gets half, IPv4 the larger half, and
what a scarce family cannot use goes to the other.
-/
import DialSelect.Ip.Basic

namespace DialSelect

set_option autoImplicit false

structure Share where
  v4 : Nat
  v6 : Nat
  deriving DecidableEq, Repr

namespace Share

/-- Split `max` records between families of which `n4` and `n6` are on offer. -/
def fair (max n4 n6 : Nat) : Share :=
  let half := max / 2
  if n6 ≤ half then ⟨max - n6, n6⟩
  else if n4 ≤ half then ⟨n4, max - n4⟩
  else ⟨max - half, half⟩

/-- What is left of a share after one record of a family, if that family had
something left.  A record without a family has no share. -/
def spend? (share : Share) : Option Family → Option Share
  | some .v4 => if 0 < share.v4 then some { share with v4 := share.v4 - 1 } else none
  | some .v6 => if 0 < share.v6 then some { share with v6 := share.v6 - 1 } else none
  | none => none

variable {α : Type}

/-- Keep, from the front, the records that the share has room for. -/
def take (family : α → Option Family) (share : Share) : List α → List α
  | [] => []
  | record :: rest =>
      match share.spend? (family record) with
      | some left => record :: take family left rest
      | none => take family share rest

def count (family : α → Option Family) (of : Family) (records : List α) : Nat :=
  records.countP fun record => family record = some of

theorem fair_sum (max n4 n6 : Nat) : (fair max n4 n6).v4 + (fair max n4 n6).v6 = max := by
  unfold fair
  dsimp only
  split
  · dsimp only; omega
  · split <;> dsimp only <;> omega

theorem take_sublist (family : α → Option Family) (share : Share) (records : List α) :
    (share.take family records).Sublist records := by
  induction records generalizing share with
  | nil => exact .slnil
  | cons record rest ih =>
      simp only [take]
      split
      · exact (ih _).cons_cons record
      · exact (ih _).cons record

theorem take_empty (family : α → Option Family) (records : List α) :
    take family ⟨0, 0⟩ records = [] := by
  induction records with
  | nil => rfl
  | cons record rest ih =>
      have refused : spend? ⟨0, 0⟩ (family record) = none := by
        cases family record with
        | none => rfl
        | some of => cases of <;> rfl
      simp [take, refused, ih]

end Share

end DialSelect
