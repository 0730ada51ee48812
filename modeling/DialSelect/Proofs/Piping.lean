/-
# DialSelect.Proofs.Piping -- two runs, one after the other

A run prints what it leaves, one address a line, and a run that reads this text goes on
where the first one stopped: it selects what one run with the policies of both selects
(`Run.selected_of_piped`).

Three things have to hold for that.  The text of the first run is read back as the
records it was printed from (`Selection.inputWords_render`, `Record.readAll_print`).
The permuter may have moved on in the single run, where the second of two runs starts
from the seed again; that makes no difference as long as only one of the two draws on
it (`Stage.applyAll_of_plain`).  And a first run that leaves nothing hands on an empty
collection, where inside a chain it is absence; stages leave no record that they did
not receive, so of either nothing is left (`Stage.applyAll_subset`).
-/
import DialSelect.Proofs.Positions
import DialSelect.Proofs.Randomness
import DialSelect.Proofs.RecordText
import DialSelect.Proofs.Runs

namespace DialSelect

set_option autoImplicit false

variable {α σ : Type} (family : α → Option Family) {permuter : Permuter σ}

/-! ## Stages that draw nothing -/

namespace Stage

/-- Stages without a shuffle neither move the permuter nor depend on it. -/
theorem applyAll_of_plain (permuter : Permuter σ) {stages : List Stage} (plain : .shuffle ∉ stages)
    (value : Option (List α)) (state other : σ) :
    applyAll family permuter stages value state =
      (applyAll family permuter stages value other).map fun final => (final.1, state) := by
  induction stages generalizing value other with
  | nil => rfl
  | cons stage rest ih =>
      obtain ⟨differ, plain⟩ := List.ne_and_not_mem_of_not_mem_cons plain
      have idle : stage = .shuffle → presentCount value ≤ 1 := fun same => absurd same.symm differ
      rw [applyAll, applyAll, apply_of_idle family permuter permuter idle state other]
      cases stage.apply family permuter value other with
      | error fault => rfl
      | ok here => exact ih plain here.value here.state

/-- Fair stages meet no fault and leave only records that they received. -/
theorem applyAll_subset (drawn : permuter.Fair) {stages : List Stage}
    (fair : ∀ stage ∈ stages, stage.Fair) (value : Option (List α)) (state : σ) :
    ∃ final, applyAll family permuter stages value state = .ok final ∧
      final.1.getD [] ⊆ value.getD [] := by
  let Inv (left : Option (List α)) : Prop := left.getD [] ⊆ value.getD []
  have step : ∀ stage ∈ stages, ∀ value state, Inv value →
      ∃ here, stage.apply family permuter value state = .ok here ∧ Inv here.value := by
    intro stage member left state within
    cases left with
    | none => exact ⟨_, rfl, within⟩
    | some records =>
        obtain ⟨here, applied, part⟩ :=
          apply_subperm family drawn (fair stage member) records state
        refine ⟨here, applied, ?_⟩
        cases value : here.value with
        | none => exact List.nil_subset _
        | some picked => exact List.Subset.trans (part picked value).1.subset within
  exact applyAll_invariant step state (List.Subset.refl _)

/-- **Stages resume where others stopped.**  Of two sequences of stages at most one
shuffles.  What the second leaves of the records that the first left, with the permuter
at its start again, is what both in sequence leave. -/
theorem applyAll_resume (drawn : permuter.Fair) {first second : List Stage}
    (fairFirst : ∀ stage ∈ first, stage.Fair) (fairSecond : ∀ stage ∈ second, stage.Fair)
    (once : .shuffle ∉ first ∨ .shuffle ∉ second) (value : Option (List α)) (state : σ) :
    ∃ middle last whole,
      applyAll family permuter first value state = .ok middle ∧
      applyAll family permuter second (some (middle.1.getD [])) state = .ok last ∧
      applyAll family permuter (first ++ second) value state = .ok whole ∧
      last.1.getD [] = whole.1.getD [] := by
  obtain ⟨⟨left, moved⟩, ranFirst, -⟩ := applyAll_subset family drawn fairFirst value state
  obtain ⟨last, ranLast, withinLast⟩ :=
    applyAll_subset family drawn fairSecond (some (left.getD [])) state
  obtain ⟨whole, ranOn, within⟩ := applyAll_subset family drawn fairSecond left moved
  have ranWhole : applyAll family permuter (first ++ second) value state = .ok whole := by
    rw [applyAll_append, ranFirst]
    exact ranOn
  have restarted : ∃ final, applyAll family permuter second left state = .ok (whole.1, final) := by
    rcases once with plain | plain
    · have still := applyAll_of_plain family permuter plain value state state
      rw [ranFirst] at still
      obtain ⟨-, rfl⟩ := Prod.mk.inj (Except.ok.inj still)
      exact ⟨whole.2, ranOn⟩
    · have still := applyAll_of_plain family permuter plain left state moved
      rw [ranOn] at still
      exact ⟨state, still⟩
  refine ⟨(left, moved), last, whole, ranFirst, ranLast, ranWhole, ?_⟩
  cases left with
  | none =>
      -- Absence inside the chain, an empty collection between the runs: nothing is left of either.
      rw [List.subset_nil.1 within, List.subset_nil.1 withinLast]
  | some records =>
      obtain ⟨_, ran⟩ := restarted
      obtain rfl := Except.ok.inj (ranLast.symm.trans ran)
      rfl

end Stage

/-! ## The stages of policies -/

theorem Stage.fair_of_policies (policies : List Policy) :
    ∀ stage ∈ policies.map Stage.ofPolicy, stage.Fair := by
  rw [← Chain.flatten_ofPolicies]
  exact Chain.fair_ofPolicies policies

/-! ## From one run to the next -/

namespace Run

theorem inputWords_render {selection : Selection}
    (solid : ∀ text ∈ selection.selected, text.toList ≠ [] ∧ Text.Solid text.toList) :
    inputWords (.bytes (selection.render .text).toUTF8) = .ok selection.selected := by
  have whole : ∀ part ∈ selection.selected.map String.toList, part ≠ [] ∧ Text.Solid part := by
    intro part member
    obtain ⟨text, inside, rfl⟩ := List.mem_map.1 member
    exact solid text inside
  rw [inputWords, inputText_toUTF8, Except.map, Selection.render, String.toList_ofList,
    Selection.renderText, Text.words_joinWith rfl whole, List.map_map]
  simp [Function.comp_def]

/-- Every candidate on the standard input is a word. -/
theorem solid_of_inputWords {input : Input} {texts : List String}
    (words : inputWords input = .ok texts) :
    ∀ text ∈ texts, Text.Solid text.toList := by
  unfold inputWords at words
  cases content : inputText input with
  | error fault => simp [content, Except.map] at words
  | ok whole =>
      rw [content] at words
      obtain rfl := Except.ok.inj words
      intro text member
      obtain ⟨word, inside, rfl⟩ := List.mem_map.1 member
      rw [String.toList_ofList]
      exact (Text.solid_of_mem_words inside).2

/-- With a seed and without addresses, a run selects among the words of its input. -/
theorem execute_of_words (settings : Settings) (stdin : settings.addrs = []) {seed : Nat}
    (seeded : settings.seed = some seed) {input : Input} {texts : List String}
    (words : inputWords input = .ok texts) (unseeded : Permuter σ) (state : σ) :
    execute settings input unseeded state =
      select settings texts Permuter.seeded (.ofSeed seed) := by
  simp only [execute, candidates, stdin, List.isEmpty_nil, if_true, words, seeded]

/-- Such a run, with some policies, prints what the stages of these leave of the
records that it reads. -/
theorem outcome_execute {settings : Settings} (stdin : settings.addrs = []) {seed : Nat}
    (seeded : settings.seed = some seed) {input : Input} {texts : List String}
    (words : inputWords input = .ok texts) {records : List settings.network.Record}
    (read : Record.readAll settings.network texts = .ok records) {policies : List Policy}
    {final : Option (List settings.network.Record) × Permuter.KeyStream}
    (ran : Stage.applyAll (Record.family? settings.network) Permuter.seeded
      (policies.map Stage.ofPolicy) (some records) (.ofSeed seed) = .ok final)
    (unseeded : Permuter σ) (state : σ) :
    (execute { settings with policy := policies } input unseeded state).outcome =
      .ok ⟨settings.network, records.length, policies,
        (final.1.getD []).map (Record.print settings.network)⟩ := by
  let chosen := { settings with policy := policies }
  have executed : execute chosen input unseeded state =
      select chosen texts Permuter.seeded (.ofSeed seed) :=
    execute_of_words chosen stdin seeded words unseeded state
  rw [← Chain.flatten_ofPolicies] at ran
  obtain ⟨applied, ended, rfl⟩ := Chain.apply_eq_ok ran
  rw [executed, select_of_applied chosen read ended]
  rfl

end Run

namespace Record

theorem readAll_print {network : Network} {records : List network.Record}
    (faithful : ∀ record ∈ records, read network (print network record) = .ok record) :
    readAll network (records.map (print network)) = .ok records := by
  rw [readAll, FirstFault.mapM_eq_ok_iff, List.map_map]
  exact List.map_congr_left faithful

theorem exists_of_readAll {network : Network} {texts : List String}
    {records : List network.Record} (accepted : readAll network texts = .ok records) :
    ∀ record ∈ records, ∃ text ∈ texts, read network text = .ok record := by
  intro record member
  have read : Except.ok record ∈ texts.map (read network) := by
    rw [FirstFault.mapM_eq_ok_iff.1 accepted]
    exact List.mem_map_of_mem member
  exact List.mem_map.1 read

end Record

namespace Run

/-- **Piping runs is chaining policies.**  Over a network with addresses, take a seed
and two lists of policies of which at most one shuffles, and words that can be read.  A
run with the first list on these words, a run with the second on the text that the first
one printed, and a run with both lists on the words all succeed, and the second selects
what the last one selects. -/
theorem selected_of_piped (settings : Settings) (ip : settings.network.hasIp)
    (stdin : settings.addrs = []) {seed : Nat} (seeded : settings.seed = some seed)
    {first second : List Policy} (once : .shuffle ∉ first ∨ .shuffle ∉ second) {input : Input}
    {texts : List String} (words : inputWords input = .ok texts)
    {records : List settings.network.Record}
    (read : Record.readAll settings.network texts = .ok records) (unseeded : Permuter σ)
    (state : σ) :
    ∃ middle last whole,
      (execute { settings with policy := first } input unseeded state).outcome = .ok middle ∧
      (execute { settings with policy := second } (.bytes (middle.render .text).toUTF8) unseeded
        state).outcome = .ok last ∧
      (execute { settings with policy := first ++ second } input unseeded state).outcome =
        .ok whole ∧
      last.selected = whole.selected := by
  obtain ⟨middle, last, whole, ranFirst, ranSecond, ranWhole, same⟩ :=
    Stage.applyAll_resume (Record.family? settings.network) Permuter.seeded_fair
      (Stage.fair_of_policies first) (Stage.fair_of_policies second)
      (once.imp Stage.shuffle_not_mem Stage.shuffle_not_mem) (some records)
      (Permuter.KeyStream.ofSeed seed)
  let picked := middle.1.getD []
  -- What the first run left was read from words, so it is read again as it is printed.
  have again : ∀ record ∈ picked,
      (Record.print settings.network record).toList ≠ [] ∧
        Text.Solid (Record.print settings.network record).toList ∧
        Record.read settings.network (Record.print settings.network record) = .ok record := by
    intro record member
    obtain ⟨final, ran, within⟩ := Stage.applyAll_subset (Record.family? settings.network)
      Permuter.seeded_fair (Stage.fair_of_policies first) (some records)
      (Permuter.KeyStream.ofSeed seed)
    obtain rfl := Except.ok.inj (ran.symm.trans ranFirst)
    obtain ⟨text, found, accepted⟩ := Record.exists_of_readAll read record (within member)
    exact Record.read_print_of_read ip (solid_of_inputWords words text found) accepted
  let handed : Selection :=
    ⟨settings.network, records.length, first, picked.map (Record.print settings.network)⟩
  have between : inputWords (.bytes (handed.render .text).toUTF8) = .ok handed.selected := by
    refine inputWords_render fun text member => ?_
    obtain ⟨record, inside, rfl⟩ := List.mem_map.1 member
    exact ⟨(again record inside).1, (again record inside).2.1⟩
  have reread : Record.readAll settings.network handed.selected = .ok picked :=
    Record.readAll_print fun record inside => (again record inside).2.2
  rw [← List.map_append] at ranWhole
  exact ⟨handed, _, _, outcome_execute stdin seeded words read ranFirst unseeded state,
    outcome_execute stdin seeded between reread ranSecond unseeded state,
    outcome_execute stdin seeded words read ranWhole unseeded state,
    congrArg (List.map (Record.print settings.network)) same⟩

end Run

/-- Addresses with a zone, embedded and in capitals, with blanks of several kinds. -/
def Input.mixed : Input :=
  .bytes "fe80::5%eth0  ::ffff:192.0.2.1\n192.0.2.7\t2001:DB8::2".toUTF8

def Input.mixedWords : List String :=
  ["fe80::5%eth0", "::ffff:192.0.2.1", "192.0.2.7", "2001:DB8::2"]

def Collection.mixed : List Network.ip.Record :=
  [⟨.v6 ⟨[0xFE80, 0, 0, 0, 0, 0, 0, 5], rfl⟩, some "eth0"⟩,
    ⟨.v6 ⟨[0, 0, 0, 0, 0, 0xFFFF, 0xC000, 0x0201], rfl⟩, none⟩, ⟨.v4 ⟨192, 0, 2, 7⟩, none⟩,
    ⟨.v6 ⟨[0x2001, 0xDB8, 0, 0, 0, 0, 0, 2], rfl⟩, none⟩]

def Settings.seven : Settings := ⟨.ip, [], some 7, .text, [], false⟩

theorem Run.selected_of_piped_mixed :
    Settings.seven.network.hasIp ∧ Settings.seven.addrs = [] ∧ Settings.seven.seed = some 7 ∧
    (.shuffle ∉ [Policy.shuffle, .pick (.atMost 3)] ∨
      .shuffle ∉ [Policy.pick .reverse, .pick (.only .v6)]) ∧
    inputWords .mixed = .ok Input.mixedWords ∧
    Record.readAll .ip Input.mixedWords = .ok Collection.mixed ∧
    ∃ middle last whole,
      (execute { Settings.seven with policy := [.shuffle, .pick (.atMost 3)] } .mixed .still
        ()).outcome = .ok middle ∧
      (execute { Settings.seven with policy := [.pick .reverse, .pick (.only .v6)] }
        (.bytes (middle.render .text).toUTF8) .still ()).outcome = .ok last ∧
      (execute { Settings.seven with
        policy := [.shuffle, .pick (.atMost 3)] ++ [.pick .reverse, .pick (.only .v6)] } .mixed
        .still ()).outcome = .ok whole ∧
      last.selected = whole.selected := by
  have once : .shuffle ∉ [Policy.shuffle, .pick (.atMost 3)] ∨
      .shuffle ∉ [Policy.pick .reverse, .pick (.only .v6)] := .inr (by decide)
  have words : inputWords .mixed = .ok Input.mixedWords := by
    rw [inputWords, Input.mixed, inputText_toUTF8]
    rfl
  have read : Record.readAll .ip Input.mixedWords = .ok Collection.mixed := rfl
  exact ⟨rfl, rfl, rfl, once, words, read,
    selected_of_piped Settings.seven rfl rfl rfl once words read .still ()⟩

end DialSelect
