/-
# DialSelect.Proofs.WholeOrNothing -- records without a family

A rule that looks for families finds none among records that have none, such as paths.  So it
drops a collection of them as a whole or keeps it as a whole, and the number of records alone
decides which (`Pick.select_of_blind`).  Only the rule that takes the first record, whatever it
is, can divide them.

What may be left of some records, all of them in some order or a single one, may be left of
what is left, too (`Collection.Undivided.trans`).  So no chain leaves more than one record and
fewer than all (`Chain.paths_undivided`).
-/
import DialSelect.Proofs.Cap
import DialSelect.Proofs.FairOrder

namespace DialSelect

set_option autoImplicit false

variable {α σ : Type} {family : α → Option Family} {permuter : Permuter σ}

/-! ## Whole collections -/

/-- All records are left in some order, or a single one where that is allowed. -/
def Collection.Undivided (single : Prop) (records picked : List α) : Prop :=
  picked.Perm records ∨ single ∧ ∃ record ∈ records, picked = [record]

namespace Collection.Undivided

variable {single : Prop} {records left picked : List α}

theorem mono {wider : Prop} (allowed : single → wider) (whole : Undivided single records picked) :
    Undivided wider records picked :=
  whole.imp_right (And.imp_left allowed)

theorem trans (first : Undivided single records left) (second : Undivided single left picked) :
    Undivided single records picked := by
  rcases second with same | ⟨allowed, record, member, rfl⟩
  · rcases first with all | ⟨allowed, record, member, rfl⟩
    · exact .inl (same.trans all)
    · exact .inr ⟨allowed, record, member, List.perm_singleton.1 same⟩
  · rcases first with all | ⟨-, other, here, rfl⟩
    · exact .inr ⟨allowed, record, all.subset member, rfl⟩
    · obtain rfl := List.mem_singleton.1 member
      exact .inr ⟨allowed, record, here, rfl⟩

end Collection.Undivided

/-! ## Rules -/

namespace Pick

def drops : Pick → Nat → Bool
  | .default, n | .firstEach, n => 1 < n
  | .atMost max, n => max < n
  | .firstOf _, _ | .only _, _ => true
  | .all, _ | .first, _ | .reverse, _ => false

/-- What a rule leaves of records that it does not drop. -/
def kept : Pick → List α → List α
  | .first, records => records.take 1
  | .reverse, records => records.reverse
  | _, records => records

theorem firstRecord?_of_blind (blind : ∀ record, family record = none) (of : Family)
    (records : List α) : firstRecord? family of records = none := by
  rw [firstRecord?, List.find?_eq_none]
  intro record _ found
  simp [blind record] at found

/-- Records without a family are dropped or kept together, and their number decides which. -/
theorem select_of_blind (blind : ∀ record, family record = none) (rule : Pick)
    (records : List α) :
    rule.select family records =
      if rule.drops records.length then none else some (rule.kept records) := by
  cases rule with
  | all | first | reverse => rfl
  | default =>
      by_cases short : records.length ≤ 1
      · simp [select, drops, kept, short]
      · simp [select, drops, short, firstRecord?_of_blind blind]
  | firstEach =>
      by_cases short : records.length ≤ 1
      · simp [select, drops, kept, short]
      · simp [select, drops, short, Share.take_eq_nil blind, Collection.present]
  | firstOf of => simp [select, drops, firstRecord?_of_blind blind]
  | only of => simp [select, drops, blind, Collection.present]
  | atMost max =>
      by_cases short : records.length ≤ max
      · simp [select_atMost_of_short short, drops, kept, short]
      · have long := Nat.lt_of_not_le short
        simp [select_atMost_of_blind blind long, drops, long]

/-- So only the rule for the first record divides them. -/
theorem undivided_of_select (blind : ∀ record, family record = none) {rule : Pick}
    {records picked : List α} (selected : rule.select family records = some picked) :
    Collection.Undivided (rule = .first) records picked := by
  rw [select_of_blind blind] at selected
  split at selected
  · cases selected
  · obtain rfl := Option.some.inj selected
    cases rule with
    | first =>
        cases records with
        | nil => exact .inl .nil
        | cons record rest => exact .inr ⟨rfl, record, List.mem_cons_self, rfl⟩
    | reverse => exact .inl records.reverse_perm
    | default | all | firstEach | firstOf _ | only _ | atMost _ => exact .inl (.refl records)

end Pick

/-! ## Stages and chains -/

/-- A stage hands on what its rule leaves, and a fair order divides nothing. -/
theorem Stage.undivided_of_apply (blind : ∀ record, family record = none)
    (drawn : permuter.Fair) {stage : Stage} (fair : stage.Fair) (records : List α) (state : σ) :
    ∃ here, stage.apply family permuter (some records) state = .ok here ∧
      ∀ picked, here.value = some picked →
        Collection.Undivided (stage = .pick .first) records picked := by
  by_cases reorder : stage.reorders
  · obtain ⟨here, picked, applied, left, same⟩ := apply_reorder family drawn fair reorder records state
    refine ⟨here, applied, fun other found => .inl ?_⟩
    obtain rfl := Option.some.inj (left.symm.trans found)
    exact same
  · cases stage with
    | pick rule =>
        exact ⟨_, rfl, fun picked selected =>
          (Pick.undivided_of_select blind selected).mono (congrArg Stage.pick)⟩
    | shuffle | arrange _ => exact absurd rfl reorder

/-- Over records without a family a chain leaves nothing, all of them, or a single one if one of
its stages takes the first. -/
theorem Chain.undivided_of_apply (blind : ∀ record, family record = none) (drawn : permuter.Fair)
    {chain : Chain} (fair : chain.Fair) (records : List α) (state : σ) :
    ∃ applied, chain.apply family permuter (some records) state = .ok applied ∧
      ∀ picked, applied.value = some picked →
        Collection.Undivided (.pick .first ∈ chain.flatten) records picked := by
  let Inv (value : Option (List α)) : Prop := ∀ picked, value = some picked →
    Collection.Undivided (.pick .first ∈ chain.flatten) records picked
  have start : Inv (some records) := by
    intro picked same
    exact .inl (List.Perm.of_eq (Option.some.inj same).symm)
  refine apply_invariant (fun stage member value state undivided => ?_) state start
  cases value with
  | none => exact ⟨_, rfl, nofun⟩
  | some left =>
      obtain ⟨here, applied, kept⟩ :=
        Stage.undivided_of_apply blind drawn (fair stage member) left state
      have allowed (first : stage = .pick .first) : .pick .first ∈ chain.flatten := first ▸ member
      exact ⟨here, applied, fun picked found =>
        (undivided left rfl).trans ((kept picked found).mono allowed)⟩

namespace Chain

/-- **A selection among local sockets is all or nothing.**  Under fair orders a chain, nested in
any way, ends without a fault; it leaves nothing, all the paths that it received in some order,
or a single one of them.  It leaves a single one only if one of its stages, at some level, takes
the first record: without such a stage it leaves nothing or all. -/
theorem paths_undivided {chain : Chain} (drawn : permuter.Fair) (fair : chain.Fair)
    (paths : List Network.unix.Record) (state : σ) :
    ∃ applied, chain.apply (Record.family? .unix) permuter (some paths) state = .ok applied ∧
      (applied.value = none ∨ ∃ picked, applied.value = some picked ∧
        (picked.Perm paths ∨ ∃ path ∈ paths, picked = [path])) ∧
      (.pick .first ∉ chain.flatten →
        applied.value = none ∨ ∃ picked, applied.value = some picked ∧ picked.Perm paths) := by
  have blind : ∀ path : Network.unix.Record, Record.family? .unix path = none :=
    Record.family?_eq_none rfl
  obtain ⟨applied, ran, undivided⟩ := undivided_of_apply blind drawn fair paths state
  refine ⟨applied, ran, ?_⟩
  cases value : applied.value with
  | none => exact ⟨.inl rfl, fun _ => .inl rfl⟩
  | some picked =>
      rcases undivided picked value with same | ⟨first, single⟩
      · exact ⟨.inr ⟨picked, rfl, .inl same⟩, fun _ => .inr ⟨picked, rfl, same⟩⟩
      · exact ⟨.inr ⟨picked, rfl, .inr single⟩, fun none => absurd first none⟩

/-- Three paths through a nested chain, with its first stage and without it. -/
theorem paths_undivided_nested :
    ∃ (inner : Chain) (paths : List Network.unix.Record),
      let whole := Chain.nest inner (.stage .shuffle .nil)
      let single := Chain.stage (.pick .first) whole
      Permuter.still.Fair ∧ whole.Fair ∧ single.Fair ∧ .pick .first ∉ whole.flatten ∧
      (∃ applied, whole.apply (Record.family? .unix) .still (some paths) () = .ok applied ∧
        applied.value = some paths.reverse ∧
        (applied.value = none ∨ ∃ picked, applied.value = some picked ∧ picked.Perm paths)) ∧
      ∃ applied, single.apply (Record.family? .unix) .still (some paths) () = .ok applied ∧
        applied.value = some (paths.take 1) ∧
        (applied.value = none ∨ ∃ picked, applied.value = some picked ∧
          (picked.Perm paths ∨ ∃ path ∈ paths, picked = [path])) := by
  let inner := Chain.stage (.pick .reverse) (.stage (.pick (.atMost 3)) .nil)
  let paths : List Network.unix.Record := [⟨"/run/a"⟩, ⟨"/run/b"⟩, ⟨"/run/c"⟩]
  have fair : (Chain.stage (.pick .first) (.nest inner (.stage .shuffle .nil))).Fair := by
    intro stage member
    simp only [inner, flatten, List.cons_append, List.nil_append, List.mem_cons, List.not_mem_nil,
      or_false] at member
    rcases member with rfl | rfl | rfl | rfl <;> trivial
  have fairWhole : (Chain.nest inner (.stage .shuffle .nil)).Fair :=
    fun stage member => fair stage (List.mem_cons_of_mem _ member)
  have unfirst : .pick .first ∉ (Chain.nest inner (.stage .shuffle .nil)).flatten := by
    simp [inner, flatten]
  obtain ⟨whole, ran, -, all⟩ := paths_undivided Permuter.still_fair fairWhole paths ()
  obtain ⟨single, ranSingle, one, -⟩ := paths_undivided Permuter.still_fair fair paths ()
  refine ⟨inner, paths, Permuter.still_fair, fairWhole, fair, unfirst,
    ⟨whole, ran, ?_, all unfirst⟩, single, ranSingle, ?_, one⟩
  · obtain rfl := Except.ok.inj ran
    rfl
  · obtain rfl := Except.ok.inj ranSingle
    rfl

end Chain

end DialSelect
