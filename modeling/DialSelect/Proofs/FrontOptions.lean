/-
# DialSelect.Proofs.FrontOptions -- options in front of a command line

What a command line says behind options that were read before is what both say
(`CommandLine.join`), unless an option that is given once is given by both
(`CommandLine.Apart`).  No argument is read in another way for what stands in front of it: every
step from some options is a step from more of them (`Progress.long_behind` and the like).  Which
step an argument is depends on its form, and where a subcommand may begin, on its being the word
of none (`CommandLine.readFrom_long` and the like).

So a command line that is accepted is also accepted with an option in front that it does not
have, and says the same and what the option says (`CommandLine.read_behind`); two such options
are `--verbose` and the one that names a configuration file.
-/
import DialSelect.CommandLine
import DialSelect.FirstFault

namespace DialSelect.CommandLine

set_option autoImplicit false

/-! ## Two command lines -/

/-- What two command lines say, one behind the other. -/
def join (front line : CommandLine) : CommandLine where
  template := line.template.or front.template
  addrs := front.addrs ++ line.addrs
  network := front.network.or line.network
  policies := front.policies ++ line.policies
  seed := front.seed.or line.seed
  format := front.format.or line.format
  config := front.config.or line.config
  verbose := front.verbose || line.verbose

/-- No option that is given once at most is given by both. -/
structure Apart (front line : CommandLine) : Prop where
  network : front.network = none ∨ line.network = none
  seed : front.seed = none ∨ line.seed = none
  format : front.format = none ∨ line.format = none
  config : front.config = none ∨ line.config = none
  verbose : front.verbose = false ∨ line.verbose = false

theorem join_empty (front : CommandLine) : front.join .empty = front := by
  simp [join, empty]

section Join

variable {front line next : CommandLine}

theorem set_join {setting : Setting} {value : String} (assigned : line.set setting value = .ok next)
    (apart : Apart front next) :
    Apart front line ∧ (front.join line).set setting value = .ok (front.join next) := by
  obtain ⟨network, seed, format, config, verbose⟩ := apart
  cases setting with
  | policy =>
      obtain rfl := Except.ok.inj assigned
      exact ⟨⟨network, seed, format, config, verbose⟩, by simp [set, join]⟩
  | network | format | seed =>
      simp only [set] at assigned
      split at assigned
      · cases assigned
      · rename_i vacant
        split at assigned
        · rename_i read
          obtain rfl := Except.ok.inj assigned
          -- what is given here is not given in front
          simp only [reduceCtorEq, or_false] at network format seed
          have free := Option.not_isSome_iff_eq_none.1 vacant
          exact ⟨by constructor <;> simp [*], by simp [set, join, *]⟩
        · cases assigned
  | config =>
      simp only [set] at assigned
      split at assigned
      · cases assigned
      · rename_i vacant
        split at assigned
        · cases assigned
        · rename_i written
          obtain rfl := Except.ok.inj assigned
          simp only [reduceCtorEq, or_false] at config
          have free := Option.not_isSome_iff_eq_none.1 vacant
          exact ⟨by constructor <;> simp [*], by simp [set, join, *]⟩

theorem raise_join {flag : Flag} (raised : line.raise flag = .ok next) (apart : Apart front next) :
    Apart front line ∧ (front.join line).raise flag = .ok (front.join next) := by
  obtain ⟨network, seed, format, config, verbose⟩ := apart
  cases flag with
  | help | version => cases raised
  | verbose =>
      simp only [CommandLine.raise] at raised
      split at raised
      · cases raised
      · rename_i quiet
        obtain rfl := Except.ok.inj raised
        simp only [Bool.true_eq_false, or_false] at verbose
        exact ⟨⟨network, seed, format, config, .inl verbose⟩,
          by simp [CommandLine.raise, join, verbose, quiet]⟩

end Join

namespace Progress

variable {front line : CommandLine} {progress next : Progress}

/-- What the arguments say so far, behind other options. -/
def behind (front : CommandLine) (progress : Progress) : Progress :=
  { progress with line := front.join progress.line }

theorem settle_behind (settled : progress.settle = .ok line) (apart : Apart front line) :
    Apart front progress.line ∧ (progress.behind front).settle = .ok (front.join line) := by
  obtain ⟨here, _ | ⟨setting, _ | value⟩, listing⟩ := progress
  · obtain rfl := Except.ok.inj settled
    exact ⟨apart, rfl⟩
  · cases settled
  · exact set_join settled apart

theorem await_behind {setting : Setting} (went : progress.await setting = .ok next)
    (apart : Apart front next.line) :
    Apart front progress.line ∧ (progress.behind front).await setting = .ok (next.behind front) := by
  obtain ⟨line, settled, done⟩ := FirstFault.bind_eq_ok_iff.1 went
  obtain rfl := Except.ok.inj done
  obtain ⟨before, again⟩ := settle_behind settled apart
  exact ⟨before, FirstFault.bind_eq_ok_iff.2 ⟨_, again, rfl⟩⟩

theorem assign_behind {setting : Setting} {value : String}
    (went : progress.assign setting value = .ok next) (apart : Apart front next.line) :
    Apart front progress.line ∧
      (progress.behind front).assign setting value = .ok (next.behind front) := by
  obtain ⟨line, settled, rest⟩ := FirstFault.bind_eq_ok_iff.1 went
  obtain ⟨assigned, given, done⟩ := FirstFault.bind_eq_ok_iff.1 rest
  obtain rfl := Except.ok.inj done
  obtain ⟨between, givenAgain⟩ := set_join given apart
  obtain ⟨before, settledAgain⟩ := settle_behind settled between
  exact ⟨before, FirstFault.bind_eq_ok_iff.2 ⟨_, settledAgain,
    FirstFault.bind_eq_ok_iff.2 ⟨_, givenAgain, rfl⟩⟩⟩

theorem raise_behind {flag : Flag} (went : progress.raise flag = .ok next)
    (apart : Apart front next.line) :
    Apart front progress.line ∧ (progress.behind front).raise flag = .ok (next.behind front) := by
  obtain ⟨line, settled, rest⟩ := FirstFault.bind_eq_ok_iff.1 went
  obtain ⟨raised, flagged, done⟩ := FirstFault.bind_eq_ok_iff.1 rest
  obtain rfl := Except.ok.inj done
  obtain ⟨between, flaggedAgain⟩ := raise_join flagged apart
  obtain ⟨before, settledAgain⟩ := settle_behind settled between
  exact ⟨before, FirstFault.bind_eq_ok_iff.2 ⟨_, settledAgain,
    FirstFault.bind_eq_ok_iff.2 ⟨_, flaggedAgain, rfl⟩⟩⟩

theorem long_behind {name : String} {value : Option String}
    (went : progress.long name value = .ok next) (apart : Apart front next.line) :
    Apart front progress.line ∧
      (progress.behind front).long name value = .ok (next.behind front) := by
  unfold long at went ⊢
  split at went
  · cases went
  · cases went
  · exact raise_behind went apart
  · exact assign_behind went apart
  · exact await_behind went apart

theorem short_behind {group : List Char} (went : progress.short group = .ok next)
    (apart : Apart front next.line) :
    Apart front progress.line ∧ (progress.behind front).short group = .ok (next.behind front) := by
  induction group generalizing progress with
  | nil =>
      obtain rfl := Except.ok.inj went
      exact ⟨apart, rfl⟩
  | cons name rest ih =>
      unfold short at went ⊢
      split at went
      · cases went
      · obtain ⟨flagged, raised, others⟩ := FirstFault.bind_eq_ok_iff.1 went
        obtain ⟨between, othersAgain⟩ := ih others
        obtain ⟨before, raisedAgain⟩ := raise_behind raised between
        exact ⟨before, FirstFault.bind_eq_ok_iff.2 ⟨_, raisedAgain, othersAgain⟩⟩
      · split at went
        · rename_i alone
          rw [if_pos alone]
          exact await_behind went apart
        · rename_i attached
          rw [if_neg attached]
          exact assign_behind went apart

theorem plain_behind {arg : String} (went : progress.plain arg = .ok next)
    (apart : Apart front next.line) :
    Apart front progress.line ∧ (progress.behind front).plain arg = .ok (next.behind front) := by
  have wanted : (progress.behind front).wants? = progress.wants? := rfl
  unfold plain at went ⊢
  rw [wanted]
  split at went
  · obtain rfl := Except.ok.inj went
    exact ⟨apart, rfl⟩
  · obtain ⟨line, settled, done⟩ := FirstFault.bind_eq_ok_iff.1 went
    obtain rfl := Except.ok.inj done
    have same : Apart front line := { apart with }
    obtain ⟨before, again⟩ := settle_behind settled same
    refine ⟨before, FirstFault.bind_eq_ok_iff.2 ⟨_, again, ?_⟩⟩
    simp [behind, join, pure, Except.pure]

end Progress

section Read

variable {front line : CommandLine} {progress : Progress} {args : List String}

/-- If this holds of the arguments behind a step, it holds with the step in front. -/
theorem step_behind {step again : Except Stop Progress}
    (stepped : ∀ {next : Progress}, step = .ok next → Apart front next.line →
      Apart front progress.line ∧ again = .ok (next.behind front))
    (others : ∀ {next : Progress}, readFrom next args = .ok line →
      Apart front next.line ∧ readFrom (next.behind front) args = .ok (front.join line))
    (accepted : (step >>= fun next => readFrom next args) = .ok line) :
    Apart front progress.line ∧
      (again >>= fun next => readFrom next args) = .ok (front.join line) := by
  obtain ⟨next, went, rest⟩ := FirstFault.bind_eq_ok_iff.1 accepted
  obtain ⟨between, restAgain⟩ := others rest
  obtain ⟨before, wentAgain⟩ := stepped went between
  exact ⟨before, FirstFault.bind_eq_ok_iff.2 ⟨_, wentAgain, restAgain⟩⟩

/-- Arguments say the same, and what stands in front of them, behind other options. -/
theorem readFrom_behind (accepted : readFrom progress args = .ok line) (apart : Apart front line) :
    Apart front progress.line ∧
      readFrom (progress.behind front) args = .ok (front.join line) := by
  induction args generalizing progress with
  | nil => exact Progress.settle_behind accepted apart
  | cons arg rest ih =>
      have begins : (progress.behind front).mayBeginCommand = progress.mayBeginCommand := rfl
      unfold readFrom at accepted ⊢
      rw [begins]
      split at accepted
      · cases accepted
      · rename_i noHelp
        rw [if_neg noHelp]
        split at accepted
        · rename_i template
          rw [if_pos template]
          obtain ⟨path, read, more⟩ := FirstFault.bind_eq_ok_iff.1 accepted
          obtain ⟨settled, went, done⟩ := FirstFault.bind_eq_ok_iff.1 more
          obtain rfl := Except.ok.inj done
          have same : Apart front settled := { apart with }
          obtain ⟨before, again⟩ := Progress.settle_behind went same
          exact ⟨before, FirstFault.bind_eq_ok_iff.2 ⟨_, read,
            FirstFault.bind_eq_ok_iff.2 ⟨_, again, rfl⟩⟩⟩
        · rename_i noTemplate
          rw [if_neg noTemplate]
          split at accepted
          · -- all that is behind a separator is addresses
            obtain ⟨settled, went, done⟩ := FirstFault.bind_eq_ok_iff.1 accepted
            obtain rfl := Except.ok.inj done
            have same : Apart front settled := { apart with }
            obtain ⟨before, again⟩ := Progress.settle_behind went same
            refine ⟨before, FirstFault.bind_eq_ok_iff.2 ⟨_, again, ?_⟩⟩
            simp [join, pure, Except.pure]
          · exact step_behind Progress.long_behind ih accepted
          · exact step_behind Progress.short_behind ih accepted
          · exact step_behind Progress.plain_behind ih accepted

/-- Only a plain argument can be the word of a subcommand. -/
theorem ne_command {arg : String} (option : Form.of arg ≠ .plain) :
    arg ≠ "init" ∧ arg ≠ "help" := by
  refine ⟨?_, ?_⟩ <;>
  · rintro rfl
    exact option rfl

theorem readFrom_long {next : Progress} {arg name : String} {value : Option String}
    (form : Form.of arg = .long name value) (went : progress.long name value = .ok next)
    (rest : List String) : readFrom progress (arg :: rest) = readFrom next rest := by
  obtain ⟨noTemplate, noHelp⟩ := ne_command (show Form.of arg ≠ .plain by simp [form])
  rw [readFrom, if_neg (fun begun => noHelp begun.2), if_neg (fun begun => noTemplate begun.2),
    form]
  simp only [went]
  rfl

theorem readFrom_short {next : Progress} {arg : String} {first : Char} {others : List Char}
    (form : Form.of arg = .short first others) (went : progress.short (first :: others) = .ok next)
    (rest : List String) : readFrom progress (arg :: rest) = readFrom next rest := by
  obtain ⟨noTemplate, noHelp⟩ := ne_command (show Form.of arg ≠ .plain by simp [form])
  rw [readFrom, if_neg (fun begun => noHelp begun.2), if_neg (fun begun => noTemplate begun.2),
    form]
  simp only [went]
  rfl

/-- A plain argument is a value or an address where no subcommand may begin, and also elsewhere
if it is the word of none. -/
theorem readFrom_plain {next : Progress} {arg : String} (form : Form.of arg = .plain)
    (noCommand : progress.mayBeginCommand = true → arg ≠ "init" ∧ arg ≠ "help")
    (went : progress.plain arg = .ok next) (rest : List String) :
    readFrom progress (arg :: rest) = readFrom next rest := by
  rw [readFrom, if_neg (fun begun => (noCommand begun.1).2 begun.2),
    if_neg (fun begun => (noCommand begun.1).1 begun.2), form]
  simp only [went]
  rfl

/-- Where a value is wanted, no subcommand begins, whatever word the value is. -/
theorem readFrom_wanted {arg : String} (form : Form.of arg = .plain) (setting : Setting)
    (rest : List String) :
    readFrom ⟨line, some (setting, none), false⟩ (arg :: rest) =
      readFrom ⟨line, some (setting, some arg), false⟩ rest := by
  have noCommand : ¬Progress.mayBeginCommand ⟨line, some (setting, none), false⟩ = true :=
    Bool.false_ne_true
  exact readFrom_plain form (fun begun => absurd begun noCommand) rfl rest

/-- A command line that is accepted is accepted behind an option that it does not have, and says
the same and what the option says. -/
theorem read_behind {arg name : String} {value : Option String}
    (form : Form.of arg = .long name value)
    (said : Progress.start.long name value = .ok ⟨front, none, false⟩)
    (accepted : read args = .ok line) (apart : Apart front line) :
    read (arg :: args) = .ok (front.join line) := by
  have start : Progress.behind front .start = ⟨front, none, false⟩ := by
    show Progress.mk (front.join .empty) none false = _
    rw [join_empty]
  obtain ⟨-, again⟩ := readFrom_behind accepted apart
  rw [start] at again
  rw [read, readFrom_long form said]
  exact again

/-- The option that names a configuration file, with its value in one argument. -/
theorem form_config (path : String) :
    Form.of ("--config=" ++ path) = .long "config" (some path) := by
  have letters : ("--config=" ++ path).toList = "--config=".toList ++ path.toList :=
    String.toList_append
  unfold Form.of
  rw [letters]
  show Form.long "config" (some (String.ofList path.toList)) = _
  rw [String.ofList_toList]

/-- Any command line that names no configuration file is made to name one by an option in front
of it. -/
theorem read_config {path : String} (written : path ≠ "") (accepted : read args = .ok line)
    (unnamed : line.config = none) :
    read (("--config=" ++ path) :: args) = .ok { line with config := some path } := by
  let front : CommandLine := { empty with config := some path }
  have said : Progress.start.long "config" (some path) = .ok ⟨front, none, false⟩ := by
    show (CommandLine.set .empty .config path >>= _) = _
    rw [set, if_neg (by simp [empty]), if_neg written]
    rfl
  have apart : Apart front line := ⟨.inl rfl, .inl rfl, .inl rfl, .inr unnamed, .inl rfl⟩
  have both : front.join line = { line with config := some path } := by simp [front, join, empty]
  rw [← both]
  exact read_behind (form_config path) said accepted apart

end Read

end DialSelect.CommandLine
