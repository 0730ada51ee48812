/-
# DialSelect.Pick -- the selection rules

A pick maps a collection to a collection of the same records, or to nothing.  It
sees a record only through its family, so it is a function on lists with a
family function as parameter, and picking commutes with every map that keeps
families.

Two rules hold throughout.  A collection of one record or none is handed back by
`default`, `first` and `firstEach` without looking at it; the rules that name a
family always look.  And what was built by looking is present only if it is not
empty (`Collection.present`).
-/
import DialSelect.Collection
import DialSelect.Event
import DialSelect.Share

namespace DialSelect

set_option autoImplicit false

/-- The selection rules that use no randomness. -/
inductive Pick where
  /-- The first IPv4 record, else the first IPv6 record. -/
  | default
  /-- Every record. -/
  | all
  /-- The first record. -/
  | first
  /-- The first record of each family. -/
  | firstEach
  /-- The first record of one family. -/
  | firstOf (family : Family)
  /-- Every record of one family. -/
  | only (family : Family)
  /-- At most that many records, shared fairly between the families. -/
  | atMost (max : Nat)
  /-- Every record, in reverse order. -/
  | reverse
  deriving DecidableEq, Repr

namespace Pick

variable {α : Type}

def firstRecord? (family : α → Option Family) (of : Family) (records : List α) : Option α :=
  records.find? fun record => family record = some of

def select (family : α → Option Family) (pick : Pick) (records : List α) : Option (List α) :=
  match pick with
  | .default =>
      if records.length ≤ 1 then some records
      else
        match firstRecord? family .v4 records with
        | some record => some [record]
        | none => (firstRecord? family .v6 records).map ([·])
  | .all => some records
  | .first => some (records.take 1)
  | .firstEach =>
      if records.length ≤ 1 then some records
      else Collection.present (Share.take family ⟨1, 1⟩ records)
  | .firstOf of => (firstRecord? family of records).map ([·])
  | .only of => Collection.present (records.filter fun record => family record = some of)
  | .atMost max =>
      if records.length ≤ max then some records
      else
        let share := Share.fair max (Share.count family .v4 records) (Share.count family .v6 records)
        Collection.present (share.take family records)
  | .reverse => some records.reverse

/-- What a rule reports: the default choice warns when it looked at a collection
and found no family in it. -/
def reports (family : α → Option Family) (pick : Pick) (records : List α) : List Event :=
  match pick with
  | .default =>
      if 2 ≤ records.length ∧ (select family .default records).isNone then
        [.noAddressFamily records.length]
      else []
  | _ => []

/-- Every rule but the reversal leaves records out and keeps the others in order. -/
theorem select_sublist {family : α → Option Family} {pick : Pick} {records picked : List α}
    (keepsOrder : pick ≠ .reverse) (selected : select family pick records = some picked) :
    picked.Sublist records := by
  have found {of : Family} {record : α} (first : firstRecord? family of records = some record) :
      [record].Sublist records :=
    List.singleton_sublist.2 (List.mem_of_find?_eq_some first)
  cases pick with
  | default =>
      simp only [select] at selected
      split at selected
      · cases selected
        exact .refl records
      · split at selected
        · rename_i record first
          cases selected
          exact found first
        · obtain ⟨record, first, rfl⟩ := Option.map_eq_some_iff.1 selected
          exact found first
  | all =>
      cases selected
      exact .refl records
  | first =>
      cases selected
      exact List.take_sublist 1 records
  | firstEach =>
      simp only [select] at selected
      split at selected
      · cases selected
        exact .refl records
      · obtain ⟨rfl, -⟩ := Collection.present_eq_some_iff.1 selected
        exact Share.take_sublist _ _ _
  | firstOf of =>
      obtain ⟨record, first, rfl⟩ := Option.map_eq_some_iff.1 selected
      exact found first
  | only of =>
      obtain ⟨rfl, -⟩ := Collection.present_eq_some_iff.1 selected
      exact List.filter_sublist
  | atMost max =>
      simp only [select] at selected
      split at selected
      · cases selected
        exact .refl records
      · obtain ⟨rfl, -⟩ := Collection.present_eq_some_iff.1 selected
        exact Share.take_sublist _ _ _
  | reverse => exact absurd rfl keepsOrder

theorem length_select_le {family : α → Option Family} {pick : Pick} {records picked : List α}
    (selected : select family pick records = some picked) : picked.length ≤ records.length := by
  by_cases reversal : pick = .reverse
  · subst reversal
    cases selected
    exact Nat.le_of_eq List.length_reverse
  · exact (select_sublist reversal selected).length_le

end Pick

end DialSelect
