/-
# DialSelect.Collection -- collections by index

A collection is a list of records; the absence of a collection is a value of its
own (`none`), different from the empty collection.  Records are taken by index,
and an index past the end is a fault that names the index and the length; of
several such indices the first one decides.
-/
import DialSelect.FirstFault

namespace DialSelect

set_option autoImplicit false

structure IndexFault where
  length : Nat
  index : Nat
  deriving DecidableEq, Repr

def IndexFault.message (fault : IndexFault) : String :=
  "index out of bounds: the len is " ++ toString fault.length ++ " but the index is " ++
    toString fault.index

namespace Collection

variable {α : Type}

def recordAt (records : List α) (index : Nat) : Except IndexFault α :=
  match records[index]? with
  | some record => .ok record
  | none => .error ⟨records.length, index⟩

/-- `target`, or a fresh collection, with the record of `source` at an index put at
its end. -/
def append (source : List α) (target : Option (List α)) (index : Nat) :
    Except IndexFault (List α) := do
  return target.getD [] ++ [← recordAt source index]

/-- The records at the given indices, in the order of the indices. -/
def gather (records : List α) (order : List Nat) : Except IndexFault (List α) :=
  order.mapM (recordAt records)

/-- A collection that was built by picking is present only if something was
picked. -/
def present (records : List α) : Option (List α) :=
  if records.isEmpty then none else some records

/-- Rearrange a collection by a list of indices.  One record or none has only one
order, and the indices are not looked at. -/
def arrange (records : List α) (order : List Nat) : Except IndexFault (Option (List α)) :=
  if records.length ≤ 1 then .ok (some records) else (gather records order).map present

theorem recordAt_eq_ok_iff {records : List α} {index : Nat} {record : α} :
    recordAt records index = .ok record ↔ records[index]? = some record := by
  unfold recordAt
  split <;> simp_all

/-- Gathering meets no fault exactly when every index is in range. -/
theorem gather_eq_ok_iff {records : List α} {order : List Nat} {picked : List α} :
    gather records order = .ok picked ↔ order.map (records[·]?) = picked.map some := by
  rw [gather, FirstFault.mapM_eq_ok_iff]
  induction order generalizing picked with
  | nil => cases picked <;> simp
  | cons index others ih =>
      cases picked with
      | nil => simp
      | cons record rest =>
          simp only [List.map_cons, List.cons.injEq, ih, recordAt_eq_ok_iff]

theorem present_eq_ite (records : List α) :
    present records = if records.length = 0 then none else some records := by
  cases records <;> rfl

theorem getD_present (records : List α) : (present records).getD [] = records := by
  cases records <;> rfl

theorem present_eq_none_iff {records : List α} : present records = none ↔ records = [] := by
  cases records <;> simp [present]

theorem present_eq_some_iff {records picked : List α} :
    present records = some picked ↔ records = picked ∧ picked ≠ [] := by
  cases records with
  | nil =>
      simp only [present, List.isEmpty_nil, if_true, reduceCtorEq, false_iff, not_and]
      rintro rfl differ
      exact differ rfl
  | cons x xs =>
      simp only [present, List.isEmpty_cons, Bool.false_eq_true, if_false, Option.some.injEq]
      exact ⟨fun same => ⟨same, same ▸ List.cons_ne_nil x xs⟩, fun both => both.1⟩

end Collection

end DialSelect
