/-
# DialSelect.Proofs.Scans -- what a rule leaves, found in one pass

What a rule leaves is told without saying how it is found: the records at some positions, the
first record of a family, or the front of each family.  It can be found in one pass that
remembers something and need not go to the end.

* `Collection.collect` goes through positions and puts the record at each behind what was picked
  so far, which is absent until something was.  It picks what is gathered at the positions
  (`Collection.collect_none`).
* `Share.scan` keeps the places that are left and what was picked so far.  It stops behind the
  record that took the last place.  What comes after that finds no place, so it picks what a
  share takes of all records (`Share.scan_none`).
* `Pick.seek` remembers the first IPv6 record that it comes by and stops at the first IPv4
  record (`Pick.seek_none`).
-/
import DialSelect.Pick

namespace DialSelect

set_option autoImplicit false

variable {α : Type} {family : α → Option Family}

namespace Collection

/-- Records put behind what was picked before; without any, nothing changes. -/
def extend (picked : Option (List α)) (more : List α) : Option (List α) :=
  if more.isEmpty then picked else some (picked.getD [] ++ more)

theorem extend_none (more : List α) : extend none more = present more := by
  cases more <;> rfl

/-- To put one record behind and then more is to put all of them behind. -/
theorem extend_cons (picked : Option (List α)) (record : α) (more : List α) :
    extend (some (picked.getD [] ++ [record])) more = extend picked (record :: more) := by
  cases more with
  | nil => rfl
  | cons next rest => simp [extend]

/-- Put the records at some positions one by one behind what was picked before. -/
def collect (records : List α) (picked : Option (List α)) :
    List Nat → Except IndexFault (Option (List α))
  | [] => .ok picked
  | index :: others => do collect records (some (← append records picked index)) others

theorem collect_eq_extend (records : List α) (picked : Option (List α)) (order : List Nat) :
    collect records picked order = (gather records order).map (extend picked) := by
  induction order generalizing picked with
  | nil => rfl
  | cons index others ih =>
      rw [collect, append, gather]
      cases here : recordAt records index with
      | error fault =>
          rw [FirstFault.mapM_cons_error here]
          rfl
      | ok record =>
          rw [FirstFault.mapM_cons_ok here, ← gather]
          refine (ih (some (picked.getD [] ++ [record]))).trans ?_
          cases gather records others with
          | error fault => rfl
          | ok more => exact congrArg Except.ok (extend_cons picked record more)

theorem collect_none (records : List α) (order : List Nat) :
    collect records none order = (gather records order).map present := by
  rw [collect_eq_extend]
  exact congrArg (Except.map · (gather records order)) (funext extend_none)

end Collection

namespace Share

/-- Pick, from the front, the records that the share has room for, and stop when no family has
room. -/
def scan (family : α → Option Family) (share : Share) (picked : Option (List α)) :
    List α → Option (List α)
  | [] => picked
  | record :: rest =>
      match share.spend? (family record) with
      | some left =>
          if left = ⟨0, 0⟩ then some (picked.getD [] ++ [record])
          else scan family left (some (picked.getD [] ++ [record])) rest
      | none => if share = ⟨0, 0⟩ then picked else scan family share picked rest

/-- A scan puts what its share takes behind what was picked before. -/
theorem scan_eq_extend (share : Share) (picked : Option (List α)) (records : List α) :
    share.scan family picked records = Collection.extend picked (share.take family records) := by
  induction records generalizing share picked with
  | nil => rfl
  | cons record rest ih =>
      rw [scan, take]
      cases share.spend? (family record) with
      | some left =>
          dsimp only
          split
          · rename_i used
            rw [used, take_empty]
            rfl
          · rw [ih, Collection.extend_cons]
      | none =>
          dsimp only
          split
          · rename_i used
            rw [used, take_empty]
            rfl
          · exact ih share picked

theorem scan_none (share : Share) (records : List α) :
    share.scan family none records = Collection.present (share.take family records) := by
  rw [scan_eq_extend, Collection.extend_none]

end Share

namespace Pick

theorem firstRecord?_eq_head? (kind : Family) (records : List α) :
    firstRecord? family kind records = (records.filter (family · = some kind)).head? :=
  List.head?_filter.symm

theorem firstRecord?_cons (kind : Family) (record : α) (rest : List α) :
    firstRecord? family kind (record :: rest) =
      if family record = some kind then some record else firstRecord? family kind rest := by
  rw [firstRecord?, List.find?_cons]
  by_cases here : family record = some kind <;> simp [here, firstRecord?]

/-- Look for an IPv4 record, and for an IPv6 record to fall back on unless there is one. -/
def seek (family : α → Option Family) (fallback : Option α) : List α → Option α
  | [] => fallback
  | record :: rest =>
      match family record with
      | some .v4 => some record
      | some .v6 => seek family (fallback.or (some record)) rest
      | none => seek family fallback rest

/-- A search ends with the first IPv4 record, or else with what it remembered, or else with the
first IPv6 record. -/
theorem seek_eq (fallback : Option α) (records : List α) :
    seek family fallback records =
      (firstRecord? family .v4 records).or (fallback.or (firstRecord? family .v6 records)) := by
  induction records generalizing fallback with
  | nil => exact (Option.or_none.symm : fallback = fallback.or none)
  | cons record rest ih =>
      rw [seek, firstRecord?_cons, firstRecord?_cons]
      rcases family record with _ | (_ | _)
      · exact ih fallback
      · rfl
      · dsimp only
        rw [ih, Option.or_assoc]
        rfl

theorem seek_none (records : List α) :
    seek family none records =
      (firstRecord? family .v4 records).or (firstRecord? family .v6 records) := by
  rw [seek_eq, Option.none_or]

end Pick

end DialSelect
