/-
# DialSelect.Proofs.ItemOrder -- the items of a command line in any order

A command line lists items: addresses, the flag that makes it verbose, and options with their
values, each spelled in one of the ways that it has (`CommandLine.Item.args`).  The list is well
formed if every item fits, which is said of each for itself, and no option that is given once at
most is given twice (`CommandLine.WellFormed`).

Reading an item leads from progress that settles to progress that settles, to what was said
before and what the item says (`CommandLine.readFrom_item`).  What is left behind by an item --
a value that waits, or the list of addresses going on -- changes nothing for the next one: a
value that waits is settled in its turn, and no address that fits is the word of a subcommand.
So all that is read is what the items say together (`CommandLine.readFrom_items`), and an option
that is given once is the same wherever it stands (`CommandLine.items_in_any_order`).
-/
import DialSelect.Proofs.Fields
import DialSelect.Proofs.FrontOptions

namespace DialSelect.CommandLine

set_option autoImplicit false

/-! ## Items -/

namespace Setting

/-- The name of an option, which stands behind two hyphens. -/
def name : Setting → String
  | .network => "network"
  | .policy => "policy"
  | .seed => "seed"
  | .format => "format"
  | .config => "config"

/-- The letter of an option, which stands behind one hyphen, if it has one. -/
def letter? : Setting → Option Char
  | .network => some 'n'
  | .policy => some 'p'
  | .config => some 'c'
  | .seed | .format => none

/-- A text is valid for an option. -/
def Takes : Setting → String → Prop
  | .network, value => ∃ network, Network.ofName? value = some network
  | .seed, value => ∃ seed, Numeral.readCount value.toList = .ok seed
  | .format, value => ∃ format, OutputFormat.ofName? value = some format
  | .policy, _ | .config, _ => True

end Setting

/-- The ways to spell an option with its value. -/
inductive Spelling where
  /-- By name, and the value in the next argument. -/
  | apart
  /-- By name, and the value behind an equals sign. -/
  | assigned
  /-- By letter, and the value in the next argument. -/
  | short (letter : Char)
  deriving DecidableEq, Repr

/-- What a command line lists. -/
inductive Item where
  | addr (text : String)
  | verbose (long : Bool)
  | given (setting : Setting) (value : String) (spelling : Spelling)
  deriving DecidableEq, Repr

/-- A text that is not empty and does not begin like an option. -/
structure Plain (text : String) : Prop where
  nonempty : text ≠ ""
  unhyphened : text.toList.head? ≠ some '-'

namespace Item

def args : Item → List String
  | .addr text => [text]
  | .verbose true => ["--verbose"]
  | .verbose false => ["-v"]
  | .given setting value .apart => ["--" ++ setting.name, value]
  | .given setting value .assigned => ["--" ++ setting.name ++ "=" ++ value]
  | .given _ value (.short letter) => [String.ofList ['-', letter], value]

def switch? : Item → Option Switch
  | .addr _ => none
  | .verbose _ => some (.flag .verbose)
  | .given setting _ _ => some (.setting setting)

def addr? : Item → Option String
  | .addr text => some text
  | _ => none

def policy? : Item → Option String
  | .given .policy value _ => some value
  | _ => none

inductive Fits : Item → Prop where
  | addr {text : String} (plain : Plain text) (noTemplate : text ≠ "init")
      (noHelp : text ≠ "help") : Fits (.addr text)
  | verbose (long : Bool) : Fits (.verbose long)
  | given {setting : Setting} {value : String} {spelling : Spelling} (plain : Plain value)
      (taken : setting.Takes value)
      (lettered : ∀ letter, spelling = .short letter → setting.letter? = some letter) :
      Fits (.given setting value spelling)

/-- Two items give the same option, and not a policy. -/
def Clash (item other : Item) : Prop :=
  ∃ switch, item.switch? = some switch ∧ other.switch? = some switch ∧ switch ≠ .setting .policy

end Item

/-- A command line's items: each fits, and only a policy is given more than once. -/
structure WellFormed (items : List Item) : Prop where
  fits : ∀ item ∈ items, item.Fits
  once : items.Pairwise fun item other => ¬item.Clash other

/-- What items say in any order: there is no template, and a field has a value exactly if an item
gives it. -/
structure Settled (items : List Item) (line : CommandLine) : Prop where
  template : line.template = none
  network : ∀ network, line.network = some network ↔ ∃ value spelling,
    .given .network value spelling ∈ items ∧ Network.ofName? value = some network
  seed : ∀ seed, line.seed = some seed ↔ ∃ value spelling,
    .given .seed value spelling ∈ items ∧ Numeral.readCount value.toList = .ok seed
  format : ∀ format, line.format = some format ↔ ∃ value spelling,
    .given .format value spelling ∈ items ∧ OutputFormat.ofName? value = some format
  config : ∀ path, line.config = some path ↔ ∃ spelling, .given .config path spelling ∈ items
  verbose : line.verbose = true ↔ ∃ long, .verbose long ∈ items

/-! ## What items say -/

/-- What an option says with a value. -/
def Setting.meaning (setting : Setting) (value : String) : CommandLine :=
  match setting with
  | .network => { empty with network := Network.ofName? value }
  | .policy => { empty with policies := [value] }
  | .seed => { empty with seed := (Numeral.readCount value.toList).toOption }
  | .format => { empty with format := OutputFormat.ofName? value }
  | .config => { empty with config := some value }

def Item.meaning : Item → CommandLine
  | .addr text => { empty with addrs := [text] }
  | .verbose _ => { empty with verbose := true }
  | .given setting value _ => setting.meaning value

def jointMeaning (items : List Item) : CommandLine :=
  items.foldr (fun item line => item.meaning.join line) .empty

theorem join_assoc (front line last : CommandLine) :
    (front.join line).join last = front.join (line.join last) := by
  simp [join, Option.or_assoc, Bool.or_assoc]

theorem Apart.join {front line last : CommandLine} (first : Apart front last)
    (second : Apart line last) : Apart (front.join line) last := by
  obtain ⟨network, seed, format, config, verbose⟩ := first
  constructor <;> simp [CommandLine.join, and_or_right, second.network, second.seed, second.format,
    second.config, second.verbose, *]

/-- A field that one option gives, which is given once at most: its value is what the option's
text is read as. -/
structure GivenBy {α : Type} (field : CommandLine → Option α) (setting : Setting)
    (Reads : String → α → Prop) : Prop where
  once : setting ≠ .policy
  empty : field .empty = none
  join : ∀ front line, field (front.join line) = (field front).or (field line)
  own : ∀ value x, field (setting.meaning value) = some x ↔ Reads value x
  others : ∀ item : Item, item.switch? ≠ some (.setting setting) → field item.meaning = none

section GivenBy

variable {α : Type} {field : CommandLine → Option α} {setting : Setting} {Reads : String → α → Prop}
  {item other : Item} {x : α}

/-- Only one of two items that do not clash gives the field. -/
theorem GivenBy.apart (given : GivenBy field setting Reads) (free : ¬item.Clash other) :
    field item.meaning = none ∨ field other.meaning = none := by
  by_cases here : item.switch? = some (.setting setting)
  · refine .inr (given.others other fun there => free ⟨_, here, there, fun policy => ?_⟩)
    exact given.once (Switch.setting.inj policy)
  · exact .inl (given.others item here)

theorem GivenBy.meaning_eq_some_iff (given : GivenBy field setting Reads) :
    field item.meaning = some x ↔
      ∃ value spelling, item = .given setting value spelling ∧ Reads value x := by
  constructor
  · intro said
    have gives : item.switch? = some (.setting setting) := Decidable.not_not.1 fun other => by
      rw [given.others item other] at said
      cases said
    cases item with
    | addr text => cases gives
    | verbose long => cases gives
    | given _ value spelling =>
        obtain rfl := Switch.setting.inj (Option.some.inj gives)
        exact ⟨value, spelling, rfl, (given.own value x).1 said⟩
  · rintro ⟨value, spelling, rfl, reads⟩
    exact (given.own value x).2 reads

/-- Among items that do not clash, the field is what the one that gives it says. -/
theorem GivenBy.jointMeaning_eq_some_iff (given : GivenBy field setting Reads) {items : List Item}
    (once : items.Pairwise fun item other => ¬item.Clash other) :
    field (jointMeaning items) = some x ↔ ∃ item ∈ items, field item.meaning = some x := by
  induction items with
  | nil => simp [jointMeaning, given.empty]
  | cons item rest ih =>
      obtain ⟨apart, once⟩ := List.pairwise_cons.1 once
      have both : field (jointMeaning (item :: rest)) =
          (field item.meaning).or (field (jointMeaning rest)) := given.join _ _
      rw [both, Option.or_eq_some_iff, ih once]
      simp only [List.mem_cons, exists_eq_or_imp]
      refine or_congr_right (and_iff_right_of_imp ?_)
      rintro ⟨later, member, gives⟩
      refine (given.apart (apart later member)).resolve_right fun silent => ?_
      rw [silent] at gives
      cases gives

theorem GivenBy.settled (given : GivenBy field setting Reads) {items : List Item}
    (once : items.Pairwise fun item other => ¬item.Clash other) :
    field (jointMeaning items) = some x ↔
      ∃ value spelling, .given setting value spelling ∈ items ∧ Reads value x := by
  rw [given.jointMeaning_eq_some_iff once]
  simp only [given.meaning_eq_some_iff]
  constructor
  · rintro ⟨_, member, value, spelling, rfl, reads⟩
    exact ⟨value, spelling, member, reads⟩
  · rintro ⟨value, spelling, member, reads⟩
    exact ⟨_, member, value, spelling, rfl, reads⟩

end GivenBy

theorem givenBy_network : GivenBy CommandLine.network .network
    fun value network => Network.ofName? value = some network := by
  refine ⟨nofun, rfl, fun _ _ => rfl, fun _ _ => Iff.rfl, ?_⟩
  rintro (_ | _ | ⟨_ | _ | _ | _ | _, _, _⟩) other <;> first | rfl | exact absurd rfl other

theorem givenBy_seed : GivenBy CommandLine.seed .seed
    fun value seed => Numeral.readCount value.toList = .ok seed := by
  refine ⟨nofun, rfl, fun _ _ => rfl, fun value seed => ?_, ?_⟩
  · show (Numeral.readCount value.toList).toOption = some seed ↔ _
    cases Numeral.readCount value.toList <;> simp [Except.toOption]
  · rintro (_ | _ | ⟨_ | _ | _ | _ | _, _, _⟩) other <;> first | rfl | exact absurd rfl other

theorem givenBy_format : GivenBy CommandLine.format .format
    fun value format => OutputFormat.ofName? value = some format := by
  refine ⟨nofun, rfl, fun _ _ => rfl, fun _ _ => Iff.rfl, ?_⟩
  rintro (_ | _ | ⟨_ | _ | _ | _ | _, _, _⟩) other <;> first | rfl | exact absurd rfl other

theorem givenBy_config : GivenBy CommandLine.config .config fun value path => value = path := by
  refine ⟨nofun, rfl, fun _ _ => rfl, fun _ _ => Option.some_inj, ?_⟩
  rintro (_ | _ | ⟨_ | _ | _ | _ | _, _, _⟩) other <;> first | rfl | exact absurd rfl other

theorem Item.verbose_meaning {item : Item} :
    item.meaning.verbose = true ↔ ∃ long, item = .verbose long := by
  rcases item with _ | _ | ⟨_ | _ | _ | _ | _, _, _⟩ <;> simp [Item.meaning, Setting.meaning, empty]

theorem apart_of_not_clash {item other : Item} (free : ¬item.Clash other) :
    Apart item.meaning other.meaning where
  network := givenBy_network.apart free
  seed := givenBy_seed.apart free
  format := givenBy_format.apart free
  config := givenBy_config.apart free
  verbose := by
    cases here : item.meaning.verbose with
    | false => exact .inl rfl
    | true =>
        refine .inr (Bool.eq_false_iff.2 fun there => ?_)
        obtain ⟨_, rfl⟩ := Item.verbose_meaning.1 here
        obtain ⟨_, rfl⟩ := Item.verbose_meaning.1 there
        exact free ⟨_, rfl, rfl, nofun⟩

theorem settled_jointMeaning {items : List Item}
    (once : items.Pairwise fun item other => ¬item.Clash other) :
    Settled items (jointMeaning items) where
  template := by
    induction items with
    | nil => rfl
    | cons item rest ih =>
        have silent : item.meaning.template = none := by
          rcases item with _ | _ | ⟨_ | _ | _ | _ | _, _, _⟩ <;> rfl
        show (jointMeaning rest).template.or item.meaning.template = none
        rw [silent, ih once.of_cons]
        rfl
  network network := givenBy_network.settled once
  seed seed := givenBy_seed.settled once
  format format := givenBy_format.settled once
  config path := by simp [givenBy_config.settled once]
  verbose := by
    induction items with
    | nil => simp [jointMeaning, empty]
    | cons item rest ih =>
        show (item.meaning.verbose || (jointMeaning rest).verbose) = true ↔ _
        rw [Bool.or_eq_true, Item.verbose_meaning, ih once.of_cons]
        simp [exists_or, eq_comm]

theorem addrs_jointMeaning (items : List Item) :
    (jointMeaning items).addrs = items.filterMap Item.addr? := by
  induction items with
  | nil => rfl
  | cons item rest ih =>
      show item.meaning.addrs ++ (jointMeaning rest).addrs = _
      rw [ih]
      rcases item with _ | _ | ⟨_ | _ | _ | _ | _, _, _⟩ <;> rfl

theorem policies_jointMeaning (items : List Item) :
    (jointMeaning items).policies = items.filterMap Item.policy? := by
  induction items with
  | nil => rfl
  | cons item rest ih =>
      show item.meaning.policies ++ (jointMeaning rest).policies = _
      rw [ih]
      rcases item with _ | _ | ⟨_ | _ | _ | _ | _, _, _⟩ <;> rfl

/-! ## Reading items -/

theorem ofLong?_name (setting : Setting) :
    Switch.ofLong? setting.name = some (.setting setting) := by
  cases setting <;> rfl

theorem ofShort?_letter {setting : Setting} {letter : Char}
    (lettered : setting.letter? = some letter) :
    Switch.ofShort? letter = some (.setting setting) := by
  cases setting <;> cases lettered <;> rfl

theorem form_plain {text : String} (plain : Plain text) : Form.of text = .plain := by
  have unhyphened := plain.unhyphened
  unfold Form.of
  split <;> simp_all

theorem form_name (setting : Setting) :
    Form.of ("--" ++ setting.name) = .long setting.name none := by
  cases setting <;> rfl

theorem form_assigned (setting : Setting) (value : String) :
    Form.of ("--" ++ setting.name ++ "=" ++ value) = .long setting.name (some value) := by
  have free : '=' ∉ setting.name.toList := by cases setting <;> decide
  have letters : ("--" ++ setting.name ++ "=" ++ value).toList =
      '-' :: '-' :: (setting.name.toList ++ '=' :: value.toList) := by
    simp [String.toList_append]
  simp [Form.of, letters, Text.cut?_append free]

theorem form_short {setting : Setting} {letter : Char} (lettered : setting.letter? = some letter) :
    Form.of (String.ofList ['-', letter]) = .short letter [] := by
  cases setting <;> cases lettered <;> rfl

section Reading

variable {front line : CommandLine} {progress : Progress}

/-- Progress that settles wants no value. -/
theorem Progress.wants?_of_settle (settled : progress.settle = .ok line) :
    progress.wants? = none := by
  obtain ⟨here, _ | ⟨setting, _ | value⟩, listing⟩ := progress
  · rfl
  · cases settled
  · rfl

/-- A value that an option takes is set if nothing was said of the option. -/
theorem set_meaning {setting : Setting} {value : String} (plain : Plain value)
    (taken : setting.Takes value) (apart : Apart front (setting.meaning value)) :
    front.set setting value = .ok (front.join (setting.meaning value)) := by
  have alone : CommandLine.set .empty setting value = .ok (setting.meaning value) := by
    cases setting with
    | policy => rfl
    | config =>
        rw [set, if_neg (by simp [empty]), if_neg plain.nonempty]
        rfl
    | network =>
        obtain ⟨network, read⟩ := taken
        simp [set, empty, read, Setting.meaning]
    | format =>
        obtain ⟨format, read⟩ := taken
        simp [set, empty, read, Setting.meaning]
    | seed =>
        obtain ⟨seed, read⟩ := taken
        simp [set, empty, read, Setting.meaning, Except.toOption]
  have joined := (set_join alone apart).2
  rw [join_empty] at joined
  exact joined

/-- Reading an item leads to progress that settles to what was said and what the item says. -/
theorem readFrom_item {item : Item} (fits : item.Fits) (settled : progress.settle = .ok front)
    (apart : Apart front item.meaning) (rest : List String) :
    ∃ next : Progress, next.settle = .ok (front.join item.meaning) ∧
      readFrom progress (item.args ++ rest) = readFrom next rest := by
  have wants := Progress.wants?_of_settle settled
  cases fits with
  | @addr text plain noTemplate noHelp =>
      have went : progress.plain text =
          .ok ⟨{ front with addrs := front.addrs ++ [text] }, none, true⟩ := by
        rw [Progress.plain, wants]
        simp only [settled]
        rfl
      refine ⟨_, ?_, readFrom_plain (form_plain plain) (fun _ => ⟨noTemplate, noHelp⟩) went rest⟩
      simp [Progress.settle, join, Item.meaning, empty]
  | verbose long =>
      have raised : progress.raise .verbose =
          .ok ⟨front.join (Item.verbose long).meaning, none, false⟩ := by
        have alone : CommandLine.raise .empty .verbose = .ok (Item.verbose long).meaning := rfl
        have joined := (raise_join alone apart).2
        rw [join_empty] at joined
        exact FirstFault.bind_eq_ok_iff.2 ⟨_, settled, FirstFault.bind_eq_ok_iff.2 ⟨_, joined, rfl⟩⟩
      cases long with
      | true =>
          have form : Form.of "--verbose" = .long "verbose" none := rfl
          exact ⟨_, rfl, readFrom_long form raised rest⟩
      | false =>
          have form : Form.of "-v" = .short 'v' [] := rfl
          have went := FirstFault.bind_eq_ok_iff.2 ⟨_, raised, rfl⟩
          exact ⟨_, rfl, readFrom_short form went rest⟩
  | @given setting value spelling plain taken lettered =>
      have said := set_meaning plain taken apart
      have waits : progress.await setting = .ok ⟨front, some (setting, none), false⟩ :=
        FirstFault.bind_eq_ok_iff.2 ⟨_, settled, rfl⟩
      cases spelling with
      | apart =>
          have went : progress.long setting.name none =
              .ok ⟨front, some (setting, none), false⟩ := by
            simp only [Progress.long, ofLong?_name, waits]
          refine ⟨⟨front, some (setting, some value), false⟩, said, ?_⟩
          show readFrom progress (("--" ++ setting.name) :: value :: rest) = _
          rw [readFrom_long (form_name setting) went, readFrom_wanted (form_plain plain)]
      | assigned =>
          have went : progress.long setting.name (some value) =
              .ok ⟨front.join (setting.meaning value), none, false⟩ := by
            simp only [Progress.long, ofLong?_name]
            exact FirstFault.bind_eq_ok_iff.2 ⟨_, settled,
              FirstFault.bind_eq_ok_iff.2 ⟨_, said, rfl⟩⟩
          exact ⟨_, rfl, readFrom_long (form_assigned setting value) went rest⟩
      | short letter =>
          have lettered := lettered letter rfl
          have went : progress.short [letter] = .ok ⟨front, some (setting, none), false⟩ := by
            simp only [Progress.short, ofShort?_letter lettered, List.isEmpty_nil, if_true, waits]
          refine ⟨⟨front, some (setting, some value), false⟩, said, ?_⟩
          show readFrom progress (String.ofList ['-', letter] :: value :: rest) = _
          rw [readFrom_short (form_short lettered) went, readFrom_wanted (form_plain plain)]

/-- All that is read is what the items say together, behind what was said before. -/
theorem readFrom_items {items : List Item} (wellFormed : WellFormed items)
    (settled : progress.settle = .ok front) (apart : ∀ item ∈ items, Apart front item.meaning) :
    readFrom progress (items.flatMap Item.args) = .ok (front.join (jointMeaning items)) := by
  induction items generalizing progress front with
  | nil =>
      show progress.settle = .ok (front.join .empty)
      rw [settled, join_empty]
  | cons item rest ih =>
      obtain ⟨fits, fitLater⟩ := List.forall_mem_cons.1 wellFormed.fits
      obtain ⟨free, onceLater⟩ := List.pairwise_cons.1 wellFormed.once
      obtain ⟨here, later⟩ := List.forall_mem_cons.1 apart
      obtain ⟨next, settledNext, read⟩ :=
        readFrom_item fits settled here (rest.flatMap Item.args)
      have apartNext : ∀ other ∈ rest, Apart (front.join item.meaning) other.meaning :=
        fun other member => (later other member).join (apart_of_not_clash (free other member))
      rw [List.flatMap_cons, read, ih ⟨fitLater, onceLater⟩ settledNext apartNext, join_assoc]
      rfl

end Reading

/-! ## Any order -/

theorem WellFormed.of_perm {items order : List Item} (wellFormed : WellFormed items)
    (same : order.Perm items) : WellFormed order where
  fits item member := wellFormed.fits item (same.mem_iff.1 member)
  once := same.symm.pairwise wellFormed.once fun free ⟨switch, here, there, several⟩ =>
    free ⟨switch, there, here, several⟩

/-- What is the same in any order is the same in two. -/
theorem Settled.eq_of_perm {items order : List Item} {line other : CommandLine}
    (settled : Settled items line) (again : Settled order other) (same : order.Perm items) :
    other = { line with addrs := other.addrs, policies := other.policies } := by
  have template : other.template = line.template := again.template.trans settled.template.symm
  have network : other.network = line.network := Option.ext fun network => by
    rw [again.network, settled.network]
    simp only [same.mem_iff]
  have seed : other.seed = line.seed := Option.ext fun seed => by
    rw [again.seed, settled.seed]
    simp only [same.mem_iff]
  have format : other.format = line.format := Option.ext fun format => by
    rw [again.format, settled.format]
    simp only [same.mem_iff]
  have config : other.config = line.config := Option.ext fun path => by
    rw [again.config, settled.config]
    simp only [same.mem_iff]
  have verbose : other.verbose = line.verbose := Bool.eq_iff_iff.2 (by
    rw [again.verbose, settled.verbose]
    simp only [same.mem_iff])
  rw [← template, ← network, ← seed, ← format, ← config, ← verbose]

/-- **A well-formed command line is accepted in any order**, and says the same in each: options
that are given once have the values that their items give, or none where no item gives one, and
the addresses and policies stand in the order in which they are listed. -/
theorem items_in_any_order {items : List Item} (wellFormed : WellFormed items) :
    ∃ line, Settled items line ∧ ∀ order : List Item, order.Perm items →
      read (order.flatMap Item.args) = .ok { line with
        addrs := order.filterMap Item.addr?
        policies := order.filterMap Item.policy? } := by
  have settled := settled_jointMeaning wellFormed.once
  refine ⟨jointMeaning items, settled, fun order same => ?_⟩
  have reordered := wellFormed.of_perm same
  have silent : ∀ item ∈ order, Apart .empty item.meaning := fun item member =>
    ⟨.inl rfl, .inl rfl, .inl rfl, .inl rfl, .inl rfl⟩
  have together : join .empty (jointMeaning order) = jointMeaning order := by simp [join, empty]
  have alike := settled.eq_of_perm (settled_jointMeaning reordered.once) same
  rw [read, readFrom_items reordered rfl silent, together, alike, addrs_jointMeaning,
    policies_jointMeaning]

/-- A command line in two orders.  In both, the word of a subcommand is the value of an option;
in the second, an address settles it. -/
theorem items_in_mirrored_order :
    let items : List Item := [.addr "192.0.2.1:80", .given .config "init" .apart,
      .given .policy "shuffle" .apart, .verbose false, .given .network "tcp" .assigned,
      .given .policy "max:2" (.short 'p'), .addr "[2001:db8::1]:80"]
    WellFormed items ∧ ∃ line : CommandLine, line.network = some .tcp ∧ line.seed = none ∧
      line.config = some "init" ∧ line.verbose = true ∧
      read ["192.0.2.1:80", "--config", "init", "--policy", "shuffle", "-v", "--network=tcp",
        "-p", "max:2", "[2001:db8::1]:80"] = .ok { line with
          addrs := ["192.0.2.1:80", "[2001:db8::1]:80"]
          policies := ["shuffle", "max:2"] } ∧
      read ["[2001:db8::1]:80", "-p", "max:2", "--network=tcp", "-v", "--policy", "shuffle",
        "--config", "init", "192.0.2.1:80"] = .ok { line with
          addrs := ["[2001:db8::1]:80", "192.0.2.1:80"]
          policies := ["max:2", "shuffle"] } := by
  intro items
  have wellFormed : WellFormed items := by
    refine ⟨?_, by simp [items, Item.Clash, Item.switch?]⟩
    simp only [items, List.forall_mem_cons]
    exact ⟨.addr ⟨by decide, by decide⟩ (by decide) (by decide),
      .given ⟨by decide, by decide⟩ trivial nofun, .given ⟨by decide, by decide⟩ trivial nofun,
      .verbose false, .given ⟨by decide, by decide⟩ ⟨.tcp, rfl⟩ nofun,
      .given ⟨by decide, by decide⟩ trivial (by simp [Setting.letter?]),
      .addr ⟨by decide, by decide⟩ (by decide) (by decide), nofun⟩
  obtain ⟨line, settled, inOrder⟩ := items_in_any_order wellFormed
  refine ⟨wellFormed, line, ?_, ?_, ?_, ?_, inOrder items (.refl items),
    inOrder items.reverse items.reverse_perm⟩
  · exact (settled.network .tcp).2 ⟨"tcp", .assigned, by simp [items], rfl⟩
  · exact Option.eq_none_iff_forall_ne_some.2 fun seed => by
      simp [settled.seed, items]
  · exact (settled.config "init").2 ⟨.apart, by simp [items]⟩
  · exact settled.verbose.2 ⟨false, by simp [items]⟩

end DialSelect.CommandLine
