/-
# DialSelect.Proofs.GivenOrder -- records at given positions, and shuffles that are given them

What is collected at some positions is decided by the positions alone.  The first of them that
is past the end is the fault (`Collection.FirstBeyond`).  Without such a position, what is
collected is one record for each, in their order, or nothing if there is none.  Collecting only
reads the collection it picks from: that is the same behind every step
(`Collection.foldlM_picking`).

So a shuffle of two records or more leaves what stands at the positions that the permuter
answers, be they a rearrangement or not (`Stage.apply_shuffle_of_many`).  How often the permuter
is asked, and for how many things, shows in the state of one that writes down every question
(`Permuter.recording`).
-/
import DialSelect.Proofs.Positions
import DialSelect.Proofs.Scans
import DialSelect.Proofs.Sequence

namespace DialSelect

set_option autoImplicit false

variable {α σ : Type}

namespace Collection

/-! ## The first fault -/

/-- The first of some positions that is past the end of a collection of that length. -/
def FirstBeyond (length : Nat) (order : List Nat) (index : Nat) : Prop :=
  ∃ before after, order = before ++ index :: after ∧ (∀ i ∈ before, i < length) ∧ length ≤ index

section Order

variable {records : List α} {order : List Nat} {index : Nat} {fault : IndexFault}

theorem exists_recordAt_iff :
    (∃ record, recordAt records index = .ok record) ↔ index < records.length := by
  simp only [recordAt_eq_ok_iff, List.getElem?_eq_some_iff]
  exact ⟨fun ⟨_, inside, _⟩ => inside, fun inside => ⟨_, inside, rfl⟩⟩

theorem recordAt_eq_error_iff :
    recordAt records index = .error fault ↔
      records.length ≤ index ∧ fault = ⟨records.length, index⟩ := by
  by_cases inside : index < records.length
  · obtain ⟨record, found⟩ := exists_recordAt_iff.2 inside
    have within : ¬records.length ≤ index := by omega
    simp [found, within]
  · have beyond : records.length ≤ index := by omega
    simp [recordAt, beyond, eq_comm]

theorem gather_eq_error_iff :
    gather records order = .error fault ↔
      ∃ index, FirstBeyond records.length order index ∧ fault = ⟨records.length, index⟩ := by
  rw [gather, FirstFault.mapM_eq_error_iff]
  simp only [exists_recordAt_iff, recordAt_eq_error_iff]
  constructor
  · rintro ⟨before, index, after, same, good, beyond, rfl⟩
    exact ⟨index, ⟨before, after, same, good, beyond⟩, rfl⟩
  · rintro ⟨index, ⟨before, after, same, good, beyond⟩, rfl⟩
    exact ⟨before, index, after, same, good, beyond, rfl⟩

theorem exists_gather_eq_error_iff :
    (∃ fault, gather records order = .error fault) ↔ ∃ index ∈ order, records.length ≤ index := by
  have gathered :
      (∃ picked, gather records order = .ok picked) ↔ ∀ index ∈ order, index < records.length := by
    simp only [gather, FirstFault.mapM_eq_ok_iff, FirstFault.exists_map_eq_ok_iff,
      exists_recordAt_iff]
  rw [← FirstFault.not_exists_ok_iff, gathered]
  simp only [Classical.not_forall, Nat.not_lt, exists_prop]

/-! ## What is collected -/

theorem collect_eq_error_iff :
    collect records none order = .error fault ↔ gather records order = .error fault := by
  rw [collect_none]
  cases gather records order <;> simp [Except.map]

theorem collect_eq_ok_iff {value : Option (List α)} :
    collect records none order = .ok value ↔
      ∃ picked, picked.map some = order.map (records[·]?) ∧ present picked = value := by
  simp only [collect_none, eq_comm (a := List.map some _), ← gather_eq_ok_iff]
  cases gather records order <;> simp [Except.map]

theorem collect_eq_none_iff : collect records none order = .ok none ↔ order = [] := by
  rw [collect_eq_ok_iff]
  constructor
  · rintro ⟨picked, there, nothing⟩
    rw [present_eq_none_iff.1 nothing] at there
    exact List.map_eq_nil_iff.1 there.symm
  · rintro rfl
    exact ⟨[], rfl, rfl⟩

/-- What is collected has the record at each position, in the order of the positions. -/
theorem collect_eq_some_iff {picked : List α} :
    collect records none order = .ok (some picked) ↔
      order ≠ [] ∧ picked.map some = order.map (records[·]?) := by
  rw [collect_eq_ok_iff]
  constructor
  · rintro ⟨found, there, kept⟩
    obtain ⟨rfl, nonempty⟩ := present_eq_some_iff.1 kept
    refine ⟨?_, there⟩
    rintro rfl
    exact nonempty (List.map_eq_nil_iff.1 there)
  · rintro ⟨asked, there⟩
    refine ⟨picked, there, present_eq_some_iff.2 ⟨rfl, ?_⟩⟩
    rintro rfl
    exact asked (List.map_eq_nil_iff.1 there.symm)

/-- Two records or more are arranged by collecting them. -/
theorem arrange_of_many (many : 2 ≤ records.length) (order : List Nat) :
    arrange records order = collect records none order := by
  have several : ¬records.length ≤ 1 := by omega
  rw [arrange, if_neg several, collect_none]

end Order

/-! ## The collection that is picked from -/

/-- A collection at work: what is picked from, and what was picked so far. -/
structure Picking (α : Type) where
  source : List α
  picked : Option (List α)

def Picking.append (picking : Picking α) (index : Nat) : Except IndexFault (Picking α) := do
  return { picking with
    picked := some (← Collection.append picking.source picking.picked index) }

/-- To pick at one position after the other is to collect at these positions, and it leaves the
collection that is picked from as it was. -/
theorem foldlM_picking (records : List α) (picked : Option (List α)) (order : List Nat) :
    order.foldlM Picking.append ⟨records, picked⟩ =
      (collect records picked order).map (Picking.mk records) := by
  induction order generalizing picked with
  | nil => rfl
  | cons index others ih =>
      rw [List.foldlM_cons, Picking.append, collect]
      cases append records picked index with
      | error fault => rfl
      | ok more => exact ih (some more)

end Collection

/-! ## Shuffles -/

/-- A permuter that answers the same, and writes down for how many things it was asked. -/
def Permuter.recording (permuter : Permuter σ) : Permuter (σ × List Nat) where
  draw n state := ((permuter.draw n state.1).1, (permuter.draw n state.1).2, state.2 ++ [n])

namespace Stage

open Collection (collect FirstBeyond Picking)

variable (family : α → Option Family) {records : List α}

/-- A shuffle of two records or more asks for one order of all of them, and leaves what is
collected at the positions of the answer. -/
theorem apply_shuffle_of_many (permuter : Permuter σ) (many : 2 ≤ records.length) (state : σ) :
    shuffle.apply family permuter (some records) state =
      (collect records none (permuter.draw records.length state).1).map
        (⟨·, (permuter.draw records.length state).2, []⟩) := by
  have several : ¬records.length ≤ 1 := by omega
  simp only [apply, if_neg several, Collection.arrange_of_many many]
  cases collect records none (permuter.draw records.length state).1 <;> rfl

/-- An order of its own is collected at in the same way, and the permuter is not asked. -/
theorem apply_arrange_of_many (permuter : Permuter σ) (order : Nat → List Nat)
    (many : 2 ≤ records.length) (state : σ) :
    (arrange order).apply family permuter (some records) state =
      (collect records none (order records.length)).map (⟨·, state, []⟩) := by
  simp only [apply, Collection.arrange_of_many many]
  cases collect records none (order records.length) <;> rfl

/-- **What is collected is decided by the positions, and a shuffle collects where its permuter
says.**  For every collection and all positions:

* there is a fault exactly if some position is past the end, and it tells the length of the
  collection and the first such position;
* otherwise nothing is collected if there is no position, and else the record at each position,
  in their order and as often as they say;
* the collection that is picked from stays as it was.

And whatever its permuter answers, a shuffle of two records or more leaves what is collected at
the positions of that answer, to the one question for an order of all of them.  Absence and at
most one record are handed on, and no question is asked. -/
theorem shuffle_collects_answer (records : List α) :
    (∀ order : List Nat,
      (∀ fault, collect records none order = .error fault ↔
        ∃ index, FirstBeyond records.length order index ∧ fault = ⟨records.length, index⟩) ∧
      ((∃ fault, collect records none order = .error fault) ↔
        ∃ index ∈ order, records.length ≤ index) ∧
      (∀ index, FirstBeyond records.length order index →
        (collect records none order).mapError IndexFault.message =
          .error ("index out of bounds: the len is " ++ toString records.length ++
            " but the index is " ++ toString index)) ∧
      (collect records none order = .ok none ↔ order = []) ∧
      (∀ picked, collect records none order = .ok (some picked) ↔
        order ≠ [] ∧ picked.map some = order.map (records[·]?)) ∧
      order.foldlM Picking.append ⟨records, none⟩ =
        (collect records none order).map (Picking.mk records)) ∧
    ∀ (σ : Type) (permuter : Permuter σ) (state : σ) (asked : List Nat),
      (2 ≤ records.length →
        let answer := permuter.draw records.length state
        shuffle.apply family permuter (some records) state =
          (collect records none answer.1).map (⟨·, answer.2, []⟩) ∧
        shuffle.apply family permuter.recording (some records) (state, asked) =
          (collect records none answer.1).map (⟨·, (answer.2, asked ++ [records.length]), []⟩) ∧
        ∀ own : Nat → List Nat,
          (arrange own).apply family permuter (some records) state =
            (collect records none (own records.length)).map (⟨·, state, []⟩)) ∧
      ∀ value : Option (List α), presentCount value ≤ 1 →
        shuffle.apply family permuter.recording value (state, asked) =
          .ok ⟨value, (state, asked), []⟩ := by
  refine ⟨fun order => ⟨fun fault => ?_, ?_, fun index first => ?_, Collection.collect_eq_none_iff,
    fun picked => Collection.collect_eq_some_iff, Collection.foldlM_picking records none order⟩,
    fun σ permuter state asked => ⟨fun many => ⟨?_, ?_, fun own => ?_⟩, fun value few => ?_⟩⟩
  · rw [Collection.collect_eq_error_iff, Collection.gather_eq_error_iff]
  · simp only [Collection.collect_eq_error_iff, Collection.exists_gather_eq_error_iff]
  · have faulty : collect records none order = .error ⟨records.length, index⟩ :=
      Collection.collect_eq_error_iff.2 (Collection.gather_eq_error_iff.2 ⟨index, first, rfl⟩)
    rw [faulty]
    rfl
  · exact apply_shuffle_of_many family permuter many state
  · exact apply_shuffle_of_many family permuter.recording many (state, asked)
  · exact apply_arrange_of_many family permuter own many state
  · exact apply_of_few family permuter.recording rfl few (state, asked)

end Stage

/-- A permuter that always answers the same, however many things it is asked for. -/
def Permuter.fixed (order : List Nat) : Permuter Unit where
  draw _ state := (order, state)

/-- Three sockets and answers that are no rearrangement of them: some positions come twice, none
comes at all, or the second one is past the end. -/
theorem Stage.shuffle_collects_answer_repeated :
    let family := Record.family? .tcp
    let web := Socket.v4 ⟨192, 0, 2, 1⟩ 80
    let other := Socket.v6 ⟨[0x2001, 0xDB8, 0, 0, 0, 0, 0, 1], rfl⟩ 443 0
    let asking (order : List Nat) (value : Option (List Network.tcp.Record)) :=
      Stage.shuffle.apply family (Permuter.fixed order).recording value ((), [])
    2 ≤ Collection.sockets.length ∧
    asking [1, 0, 1, 1] (some Collection.sockets) =
      .ok ⟨some [other, web, other, other], ((), [3]), []⟩ ∧
    asking [] (some Collection.sockets) = .ok ⟨none, ((), [3]), []⟩ ∧
    Collection.FirstBeyond Collection.sockets.length [2, 5, 0, 7] 5 ∧
    (asking [2, 5, 0, 7] (some Collection.sockets)).mapError IndexFault.message =
      .error ("index out of bounds: the len is " ++ toString 3 ++
        " but the index is " ++ toString 5) ∧
    presentCount (some [web]) ≤ 1 ∧
    asking [5] (some [web]) = .ok ⟨some [web], ((), []), []⟩ := by
  intro family web other asking
  have many : 2 ≤ Collection.sockets.length := by decide
  have few : presentCount (some [web]) ≤ 1 := by decide
  have first : Collection.FirstBeyond Collection.sockets.length [2, 5, 0, 7] 5 :=
    ⟨[2], [0, 7], rfl, by decide, by decide⟩
  obtain ⟨collected, asks⟩ := Stage.shuffle_collects_answer family Collection.sockets
  have shuffled (order : List Nat) := ((asks Unit (.fixed order) () []).1 many).2.1
  refine ⟨many, ?_, ?_, first, ?_, few, (asks Unit (.fixed [5]) () []).2 _ few⟩
  · have there : Collection.collect Collection.sockets none [1, 0, 1, 1] =
        .ok (some [other, web, other, other]) :=
      ((collected [1, 0, 1, 1]).2.2.2.2.1 _).2 ⟨by decide, rfl⟩
    exact (shuffled [1, 0, 1, 1]).trans (congrArg (Except.map _) there)
  · have nothing := (collected []).2.2.2.1.2 rfl
    exact (shuffled []).trans (congrArg (Except.map _) nothing)
  · have faulty : Collection.collect Collection.sockets none [2, 5, 0, 7] = .error ⟨3, 5⟩ :=
      ((collected [2, 5, 0, 7]).1 _).2 ⟨5, first, rfl⟩
    have ended := (shuffled [2, 5, 0, 7]).trans (congrArg (Except.map _) faulty)
    exact congrArg (Except.mapError IndexFault.message) ended

end DialSelect
