/-
# DialSelect.Proofs.Naturality -- records are moved, never looked at

Stages see a record through its family alone.  So to map the records and then
apply a chain is to apply the chain to the records as they are, each with the
family of its image, and then to map what is left (`Chain.apply_map`): the value
is the image, and the faults, the permuter's state and the reports are the same.

Two maps make a chain's choice visible.  Take the positions `0 .. n-1` for records:
the chain picks positions, and what it picks of a collection is the records at
these (`Chain.apply_positions`).  The positions picked depend on the collection
through `Collection.familyAt` only.
-/
import DialSelect.Proofs.FairOrder

namespace DialSelect

set_option autoImplicit false

variable {α β σ : Type} (f : α → β) (family : β → Option Family)

/-- An outcome with every record mapped. -/
def Applied.map (applied : Applied α σ) : Applied β σ :=
  ⟨applied.value.map (List.map f), applied.state, applied.events⟩

namespace Collection

theorem recordAt_map (records : List α) (index : Nat) :
    recordAt (records.map f) index = (recordAt records index).map f := by
  unfold recordAt
  rw [List.getElem?_map, List.length_map]
  cases records[index]? <;> rfl

theorem gather_map (records : List α) (order : List Nat) :
    gather (records.map f) order = (gather records order).map (List.map f) := by
  unfold gather
  induction order with
  | nil => rfl
  | cons index rest ih =>
      rw [List.mapM_cons, List.mapM_cons, recordAt_map, ih]
      cases recordAt records index with
      | error fault => rfl
      | ok record => cases rest.mapM (recordAt records) <;> rfl

theorem present_map (records : List α) :
    present (records.map f) = (present records).map (List.map f) := by
  cases records <;> rfl

theorem arrange_map (records : List α) (order : List Nat) :
    arrange (records.map f) order = (arrange records order).map (Option.map (List.map f)) := by
  unfold arrange
  rw [List.length_map, gather_map]
  split
  · rfl
  · cases gather records order with
    | error fault => rfl
    | ok picked => exact congrArg Except.ok (present_map f picked)

end Collection

namespace Share

theorem take_map (share : Share) (records : List α) :
    share.take family (records.map f) = (share.take (family ∘ f) records).map f := by
  induction records generalizing share with
  | nil => rfl
  | cons record rest ih =>
      simp only [List.map_cons, take, Function.comp_apply]
      cases share.spend? (family (f record)) with
      | none => exact ih share
      | some left => simp only [List.map_cons, ih left]

theorem count_map (of : Family) (records : List α) :
    count family of (records.map f) = count (family ∘ f) of records := by
  unfold count
  rw [List.countP_map]
  rfl

end Share

namespace Pick

theorem firstRecord?_map (of : Family) (records : List α) :
    firstRecord? family of (records.map f) = (firstRecord? (family ∘ f) of records).map f := by
  unfold firstRecord?
  rw [List.find?_map]
  rfl

theorem select_map (pick : Pick) (records : List α) :
    pick.select family (records.map f) =
      (pick.select (family ∘ f) records).map (List.map f) := by
  cases pick with
  | default =>
      simp only [select, List.length_map, firstRecord?_map]
      split
      · rfl
      · cases firstRecord? (family ∘ f) .v4 records with
        | some record => rfl
        | none => cases firstRecord? (family ∘ f) .v6 records <;> rfl
  | all => rfl
  | first => simp only [select, List.map_take, Option.map_some]
  | firstEach =>
      simp only [select, List.length_map, Share.take_map, Collection.present_map]
      split <;> rfl
  | firstOf of =>
      simp only [select, firstRecord?_map]
      cases firstRecord? (family ∘ f) of records <;> rfl
  | only of =>
      simp only [select, List.filter_map, Collection.present_map]
      rfl
  | atMost max =>
      simp only [select, List.length_map, Share.take_map, Share.count_map,
        Collection.present_map]
      split <;> rfl
  | reverse => simp only [select, List.map_reverse, Option.map_some]

theorem reports_map (pick : Pick) (records : List α) :
    pick.reports family (records.map f) = pick.reports (family ∘ f) records := by
  cases pick with
  | default => simp only [reports, List.length_map, select_map, Option.isNone_map]
  | all | first | firstEach | firstOf _ | only _ | atMost _ | reverse => rfl

end Pick

variable (permuter : Permuter σ)

theorem Stage.apply_map (stage : Stage) (value : Option (List α)) (state : σ) :
    stage.apply family permuter (value.map (List.map f)) state =
      (stage.apply (family ∘ f) permuter value state).map (Applied.map f) := by
  cases value with
  | none => rfl
  | some records =>
      cases stage with
      | pick rule =>
          simp only [Option.map_some, apply, Pick.select_map, Pick.reports_map]
          rfl
      | shuffle =>
          simp only [Option.map_some, apply, List.length_map, Collection.arrange_map]
          split
          · rfl
          · cases Collection.arrange records (permuter.draw records.length state).1 <;> rfl
      | arrange order =>
          simp only [Option.map_some, apply, List.length_map, Collection.arrange_map]
          cases Collection.arrange records (order records.length) <;> rfl

theorem presentCount_map (value : Option (List α)) :
    presentCount (value.map (List.map f)) = presentCount value := by
  cases value with
  | none => rfl
  | some records => exact List.length_map f

namespace Chain

theorem applyFrom_map (chain : Chain) (number : Nat) (value : Option (List α)) (state : σ) :
    chain.applyFrom family permuter number (value.map (List.map f)) state =
      (chain.applyFrom (family ∘ f) permuter number value state).map (Applied.map f) := by
  induction chain generalizing number value state with
  | nil => rfl
  | stage first rest ih =>
      rw [applyFrom, applyFrom, Stage.apply_map]
      cases first.apply (family ∘ f) permuter value state with
      | error fault => rfl
      | ok here =>
          simp only [Except.map, bind, Except.bind, Applied.map, ih, presentCount_map]
          cases applyFrom (family ∘ f) permuter (number + 1) rest here.value here.state <;> rfl
  | nest inner rest ihInner ihRest =>
      rw [applyFrom, applyFrom, ihInner]
      cases applyFrom (family ∘ f) permuter 0 inner value state with
      | error fault => rfl
      | ok here =>
          simp only [Except.map, bind, Except.bind, Applied.map, ihRest, presentCount_map]
          cases applyFrom (family ∘ f) permuter (number + 1) rest here.value here.state <;> rfl

/-- **Naturality.**  A chain moves records and never looks at them: mapping before
it is mapping after it. -/
theorem apply_map (chain : Chain) (value : Option (List α)) (state : σ) :
    chain.apply family permuter (value.map (List.map f)) state =
      (chain.apply (family ∘ f) permuter value state).map (Applied.map f) :=
  applyFrom_map f family permuter chain 0 value state

end Chain

/-! ## Positions -/

def Collection.familyAt (family : α → Option Family) (records : List α) (index : Nat) :
    Option Family :=
  records[index]?.bind family

theorem Collection.familyAt_eq (family : α → Option Family) (records : List α) (index : Nat) :
    familyAt family records index = (records.map family)[index]?.join := by
  unfold familyAt
  rw [List.getElem?_map]
  cases records[index]? <;> rfl

namespace Chain

variable (family : α → Option Family) (permuter : Permuter σ)

theorem apply_positions (chain : Chain) (records : List α) (state : σ) :
    (chain.apply family permuter (some records) state).map (Applied.map some) =
      (chain.apply (Collection.familyAt family records) permuter
        (some (List.range records.length)) state).map (Applied.map (records[·]?)) := by
  let optional : Option α → Option Family := (·.bind family)
  calc (chain.apply family permuter (some records) state).map (Applied.map some)
      = chain.apply optional permuter (some (records.map some)) state :=
        (apply_map some optional permuter chain (some records) state).symm
    _ = chain.apply optional permuter
          (some ((List.range records.length).map (records[·]?))) state := by
        rw [Collection.map_getElem?_range]
    _ = _ := apply_map (records[·]?) optional permuter chain
          (some (List.range records.length)) state

variable {family permuter} {chain : Chain} {records : List α} {state : σ}

/-- What a chain leaves of a collection is the records at the positions that it
leaves of all positions. -/
theorem apply_of_positions {places : Applied Nat σ}
    (ran : chain.apply (Collection.familyAt family records) permuter
      (some (List.range records.length)) state = .ok places) :
    ∃ applied, chain.apply family permuter (some records) state = .ok applied ∧
      ((places.value = none ∧ applied.value = none) ∨
        ∃ order picked, places.value = some order ∧ applied.value = some picked ∧
          Collection.gather records order = .ok picked) := by
  have same := apply_positions family permuter chain records state
  rw [ran] at same
  cases outcome : chain.apply family permuter (some records) state with
  | error fault => simp [outcome, Except.map] at same
  | ok applied =>
      rw [outcome] at same
      have values := congrArg Applied.value (Except.ok.inj same)
      refine ⟨applied, rfl, ?_⟩
      simp only [Applied.map] at values
      cases left : applied.value with
      | none =>
          rw [left] at values
          exact .inl ⟨Option.map_eq_none_iff.1 values.symm, rfl⟩
      | some picked =>
          rw [left] at values
          obtain ⟨order, chosen, read⟩ := Option.map_eq_some_iff.1 values.symm
          exact .inr ⟨order, picked, chosen, rfl, Collection.gather_eq_ok_iff.2 read⟩

/-- A chain fails on a collection as it fails on its positions. -/
theorem apply_of_positions_error {fault : IndexFault}
    (ran : chain.apply (Collection.familyAt family records) permuter
      (some (List.range records.length)) state = .error fault) :
    chain.apply family permuter (some records) state = .error fault := by
  have same := apply_positions family permuter chain records state
  rw [ran] at same
  cases outcome : chain.apply family permuter (some records) state with
  | error other =>
      rw [outcome] at same
      exact congrArg Except.error (Except.error.inj same)
  | ok applied => simp [outcome, Except.map] at same

end Chain

end DialSelect
