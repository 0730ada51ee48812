/-
# DialSelect.Proofs.Selected -- what a run selects

No stage makes records of its own, whatever orders it is given, so every address that a run
selects is the text of a record that was read from one of its candidates
(`Run.sources_of_execute`).  Such a text is not empty: no address is printed as nothing, and a
path that is nothing is not read (`Record.print_ne_nil`).

The text of a selection has its addresses with a line feed between any two.  So its lines are
the addresses if and only if no address has a line feed in it (`Selection.lines_eq_iff`).  A
line feed can come from a zone or a path only, and only out of a candidate that has it inside,
which a word of the standard input has not.  An argument of the command line may have one, and
then an address takes several lines (`Run.lines_of_selected`).
-/
import DialSelect.Proofs.Candidates
import DialSelect.Proofs.Piping

namespace DialSelect

set_option autoImplicit false

variable {α σ : Type} {family : α → Option Family} {permuter : Permuter σ}

/-! ## Stages make no records -/

namespace Collection

theorem subset_of_gather {records picked : List α} {order : List Nat}
    (gathered : gather records order = .ok picked) : picked ⊆ records := by
  intro record member
  have found : some record ∈ order.map (records[·]?) := by
    rw [gather_eq_ok_iff.1 gathered]
    exact List.mem_map_of_mem member
  obtain ⟨index, -, here⟩ := List.mem_map.1 found
  exact List.mem_of_getElem? here

theorem subset_of_arrange {records : List α} {order : List Nat} {value : Option (List α)}
    (arranged : arrange records order = .ok value) : value.getD [] ⊆ records := by
  unfold arrange at arranged
  split at arranged
  · obtain rfl := Except.ok.inj arranged
    exact List.Subset.refl records
  · cases gathered : gather records order with
    | error fault => simp [gathered, Except.map] at arranged
    | ok picked =>
        simp only [gathered, Except.map, Except.ok.injEq] at arranged
        rw [← arranged, getD_present]
        exact subset_of_gather gathered

end Collection

theorem Pick.subset_of_select {rule : Pick} {records picked : List α}
    (selected : rule.select family records = some picked) : picked ⊆ records := by
  by_cases reversal : rule = .reverse
  · subst reversal
    obtain rfl := Option.some.inj selected
    exact List.reverse_subset.2 (List.Subset.refl records)
  · exact (select_sublist reversal selected).subset

theorem Stage.subset_of_apply {stage : Stage} {value : Option (List α)} {state : σ}
    {here : Applied α σ} (applied : stage.apply family permuter value state = .ok here) :
    here.value.getD [] ⊆ value.getD [] := by
  cases value with
  | none =>
      obtain rfl := Except.ok.inj applied
      exact List.Subset.refl []
  | some records =>
      rcases cases_of_apply applied with ⟨rule, -, selected, -⟩ | ⟨order, arranged, -⟩
      · cases left : rule.select family records with
        | none => simp [selected, left]
        | some picked =>
            rw [selected, left]
            exact Pick.subset_of_select left
      · exact Collection.subset_of_arrange arranged

theorem Chain.subset_of_apply {chain : Chain} {value : Option (List α)} {state : σ}
    {applied : Applied α σ} (ran : chain.apply family permuter value state = .ok applied) :
    applied.value.getD [] ⊆ value.getD [] := by
  let Inv (left : Option (List α)) : Prop := left.getD [] ⊆ value.getD []
  have step (stage : Stage) (left : Option (List α)) (state : σ) (here : Applied α σ)
      (within : Inv left) (applied : stage.apply family permuter left state = .ok here) :
      Inv here.value :=
    List.Subset.trans (Stage.subset_of_apply applied) within
  exact keeps_of_applyFrom step (List.Subset.refl _) ran

/-! ## Where a selected text comes from -/

namespace Run

/-- Every text that a run selects is that of a record that was read from a candidate. -/
theorem sources_of_execute {settings : Settings} {input : Input} {unseeded : Permuter σ}
    {state : σ} {selection : Selection}
    (succeeded : (execute settings input unseeded state).outcome = .ok selection) :
    ∃ texts, candidates settings input = .ok texts ∧
      ∀ text ∈ selection.selected, ∃ candidate ∈ texts, ∃ record,
        Record.read settings.network candidate = .ok record ∧
        Record.print settings.network record = text := by
  obtain ⟨texts, found, τ, permuter, start, selected⟩ := exists_of_execute succeeded
  obtain ⟨records, applied, read, picked, rfl⟩ := exists_of_select settings selected
  refine ⟨texts, found, fun text member => ?_⟩
  obtain ⟨record, left, rfl⟩ := List.mem_map.1 member
  obtain ⟨candidate, given, accepted⟩ :=
    Record.exists_of_readAll read record (Chain.subset_of_apply picked left)
  exact ⟨candidate, given, record, accepted, rfl⟩

end Run

/-! ## The text of a record -/

/-- A path that is read is the end of the text it was read from, and is not empty. -/
theorem SocketPath.of_read? {text : List Char} {record : SocketPath}
    (accepted : read? text = some record) :
    record.path.toList ≠ [] ∧ record.path.toList ⊆ text := by
  obtain ⟨nonempty, marked | ⟨-, plain⟩⟩ := read?_eq_some_iff.1 accepted
  · exact ⟨nonempty, marked ▸ List.subset_append_right _ _⟩
  · exact ⟨nonempty, plain ▸ List.Subset.refl text⟩

namespace Record

theorem print_ne_nil {network : Network} {text : String} {record : network.Record}
    (accepted : read network text = .ok record) : (print network record).toList ≠ [] := by
  cases network with
  | tcp | udp =>
      rw [print, String.toList_ofList]
      exact Socket.print_ne_nil record
  | ip =>
      rw [print, String.toList_ofList]
      exact ZonedIp.print_ne_nil record
  | unix => exact (SocketPath.of_read? (readSocketPath_eq_ok_iff.1 accepted)).1

theorem lineFeed_not_mem_socket (socket : Socket) : '\n' ∉ (String.ofList socket.print).toList := by
  rw [String.toList_ofList]
  intro member
  exact absurd (socket.solid_print '\n' member) (by decide)

/-- A line feed in the text of a record stands inside the text that the record was read
from. -/
theorem lineFeed_of_mem_print {network : Network} {text : String} {record : network.Record}
    (accepted : read network text = .ok record) (member : '\n' ∈ (print network record).toList) :
    '\n' ∈ Text.trim text.toList := by
  cases network with
  | tcp | udp => exact absurd member (lineFeed_not_mem_socket record)
  | ip =>
      obtain ⟨-, within⟩ := ZonedIp.wellZoned_of_read (readZonedIp_eq_ok_iff.1 accepted).2
      rw [print, String.toList_ofList] at member
      obtain ⟨ip, _ | zone⟩ := record
      · exact absurd (ip.print_subset member) (by decide)
      · rcases List.mem_append.1 member with address | behind
        · exact absurd (ip.print_subset address) (by decide)
        · exact within zone rfl ((List.mem_cons.1 behind).resolve_left (by decide))
  | unix => exact (SocketPath.of_read? (readSocketPath_eq_ok_iff.1 accepted)).2 member

end Record

/-! ## Lines -/

namespace Selection

/-- The lines of a selection's text. -/
def lines (selection : Selection) : List String :=
  (Text.fields '\n' (selection.render .text).toList).map String.ofList

/-- The lines are the selected texts exactly if none of these has a line feed in it. -/
theorem lines_eq_iff {selection : Selection} (nonempty : selection.selected ≠ []) :
    selection.lines = selection.selected ↔ ∀ text ∈ selection.selected, '\n' ∉ text.toList := by
  have parts : selection.selected.map String.toList ≠ [] := by simpa using nonempty
  rw [lines, Text.map_ofList_eq_iff, render, String.toList_ofList, renderText,
    Text.fields_joinWith_eq_iff parts, List.forall_mem_map]

end Selection

namespace Run

/-- Candidates of a run have a line feed inside only if an address of the settings has. -/
theorem lineFeed_not_mem_candidates {settings : Settings} {input : Input} {texts : List String}
    (found : candidates settings input = .ok texts)
    (clean : ∀ address ∈ settings.addrs, '\n' ∉ Text.trim address.toList) :
    ∀ candidate ∈ texts, '\n' ∉ Text.trim candidate.toList := by
  by_cases listed : settings.addrs = []
  · rw [candidates_of_input listed] at found
    intro candidate member inside
    have solid := solid_of_inputWords found candidate member
    rw [Text.trim_of_solid solid] at inside
    exact absurd (solid '\n' inside) (by decide)
  · rw [candidates_of_addrs listed] at found
    exact Except.ok.inj found ▸ clean

/-- **The text of a selection has a line for each address**, as long as no address has a line
feed in it.  None has over a network of sockets, and none has if no address on the command line
has one inside: then the lines are the addresses that were selected, in dial order.  Where a
selected address has a line feed in it, they are not. -/
theorem lines_of_selected {settings : Settings} {input : Input} {unseeded : Permuter σ} {state : σ}
    {selection : Selection}
    (succeeded : (execute settings input unseeded state).outcome = .ok selection)
    (nonempty : selection.selected ≠ []) :
    (selection.lines = selection.selected ↔ ∀ text ∈ selection.selected, '\n' ∉ text.toList) ∧
    (settings.network = .tcp ∨ settings.network = .udp → selection.lines = selection.selected) ∧
    ((∀ address ∈ settings.addrs, '\n' ∉ Text.trim address.toList) →
      selection.lines = selection.selected) := by
  obtain ⟨texts, found, sources⟩ := sources_of_execute succeeded
  refine ⟨Selection.lines_eq_iff nonempty, fun sockets => ?_, fun clean => ?_⟩
  · rw [Selection.lines_eq_iff nonempty]
    intro text member
    obtain ⟨candidate, -, record, -, rfl⟩ := sources text member
    obtain ⟨network, policy, seed, format, addrs, verbose⟩ := settings
    rcases sockets with rfl | rfl
    · exact Record.lineFeed_not_mem_socket record
    · exact Record.lineFeed_not_mem_socket record
  · rw [Selection.lines_eq_iff nonempty]
    intro text member inside
    obtain ⟨candidate, given, record, accepted, rfl⟩ := sources text member
    exact lineFeed_not_mem_candidates found clean candidate given
      (Record.lineFeed_of_mem_print accepted inside)

/-- Two paths, one with a space and one with a line feed behind it, on two lines. -/
theorem lines_of_selected_spaced :
    ∃ settings : Settings, ∃ selection : Selection,
      settings.addrs = ["unix:/run/a b", " /run/c\n"] ∧
      (execute settings (.bytes .empty) .still ()).outcome = .ok selection ∧
      selection.selected = ["/run/c", "/run/a b"] ∧ selection.lines = selection.selected := by
  let settings : Settings :=
    ⟨.unix, [.pick .reverse], none, .text, ["unix:/run/a b", " /run/c\n"], false⟩
  let selection : Selection := ⟨.unix, 2, [.pick .reverse], ["/run/c", "/run/a b"]⟩
  have succeeded : (execute settings (.bytes .empty) .still ()).outcome = .ok selection := rfl
  obtain ⟨-, -, kept⟩ := lines_of_selected succeeded (by decide)
  exact ⟨settings, selection, rfl, succeeded, rfl, kept (by decide)⟩

end Run

/-- The arguments of a run over two paths, one of which has a line feed in it. -/
def CommandLine.brokenPath : List String :=
  ["--network", "unix", "--policy", "all", "/run/a\nb", "/run/c"]

def Settings.brokenPath : Settings :=
  ⟨.unix, [.pick .all], none, .text, ["/run/a\nb", "/run/c"], false⟩

def Selection.brokenPath : Selection := ⟨.unix, 2, [.pick .all], ["/run/a\nb", "/run/c"]⟩

namespace Run

/-- Two paths on three lines. -/
theorem lines_of_brokenPath :
    ((CommandLine.read CommandLine.brokenPath).toOption.bind fun line =>
      (Settings.merge line none).toOption) = some .brokenPath ∧
    (execute .brokenPath (.bytes .empty) .still ()).outcome = .ok .brokenPath ∧
    Selection.brokenPath.selected ≠ [] ∧
    Selection.brokenPath.lines = ["/run/a", "b", "/run/c"] ∧
    Selection.brokenPath.lines ≠ Selection.brokenPath.selected := by
  refine ⟨rfl, rfl, by decide, rfl, by decide⟩

end Run

end DialSelect
