/-
# DialSelect.Proofs.Strictness -- a configuration file is taken at its word

Which settings a document gives is told by its entries: a section has a value under a name
(`ConfigFile.Entered`), wherever in the document that entry stands.  A document with tables for
sections is accepted exactly if it has no other names than those of the settings, each where it
belongs, and each value is of the kind that its setting wants (`ConfigFile.Acceptable`); the
settings are then those values, and the settings without a value are not given
(`ConfigFile.Holds`).

So the order of entries does not matter, in any table (`ConfigFile.ofTable?_of_reordered`), and a
name that no setting has spoils the document at whatever depth it stands
(`ConfigFile.known_of_within`).
-/
import DialSelect.ConfigFile
import DialSelect.Proofs.Documents
import DialSelect.Proofs.EntryOrder

namespace DialSelect

set_option autoImplicit false

namespace Toml

/-! ## Readings of a value -/

namespace Value

theorem text?_eq_some_iff {value : Value} {text : String} :
    value.text? = some text ↔ value = .text text := by
  cases value <;> simp [text?]

theorem integer?_eq_some_iff {value : Value} {n : Int} :
    value.integer? = some n ↔ value = .integer n := by
  cases value <;> simp [integer?]

theorem texts?_eq_some_iff {value : Value} {texts : List String} :
    value.texts? = some texts ↔ value = .array (texts.map .text) := by
  constructor
  · intro read
    cases value with
    | array items =>
        refine congrArg Value.array ?_
        simp only [texts?] at read
        induction items generalizing texts with
        | nil =>
            obtain rfl := Option.some.inj read
            rfl
        | cons item items ih =>
            rw [List.mapM_cons] at read
            obtain ⟨text, here, read⟩ := Option.bind_eq_some_iff.1 read
            obtain ⟨others, later, read⟩ := Option.bind_eq_some_iff.1 read
            obtain rfl := Option.some.inj read
            rw [List.map_cons, ← ih later, text?_eq_some_iff.1 here]
    | _ => cases read
  · rintro rfl
    exact texts?_array texts

end Value

end Toml

namespace ConfigFile

open Toml

/-! ## Settings whatever their order -/

theorem seed?_of_reordered {value moved : Value} (same : value.Reordered moved) :
    seed? value = seed? moved := by
  rw [seed?, seed?, same.integer?_eq]

theorem optional_of_reordered {α : Type} {read : Value → Option α}
    (respects : ∀ {value moved : Value}, value.Reordered moved → read value = read moved)
    {table other : Table} (names : (table.map Prod.fst).Nodup)
    (same : Value.Reordered (.table table) (.table other)) (name : String) :
    optional read (table.lookup name) = optional read (other.lookup name) := by
  rcases lookup_of_reordered names same name with ⟨here, there⟩ | ⟨value, moved, here, there, like⟩
  · rw [here, there]
  · rw [here, there, optional, optional, respects like]

theorem select?_of_reordered {value moved : Value} (same : value.Reordered moved)
    (distinct : value.Distinct) : select? (some value) = select? (some moved) := by
  cases same with
  | table order inside =>
      have names := (Value.distinct_table_iff.1 distinct).1
      have same := Value.Reordered.table order inside
      simp only [select?, knownBy_of_reordered same,
        optional_of_reordered Value.Reordered.text?_eq names same,
        optional_of_reordered Value.Reordered.texts?_eq names same,
        optional_of_reordered seed?_of_reordered names same]
  | array inside =>
      -- only the first three items of an array are read
      rcases inside with _ | ⟨network, _ | ⟨policy, _ | ⟨seed, others⟩⟩⟩
      · rfl
      · rfl
      · rfl
      · simp only [select?, network.text?_eq, policy.texts?_eq, seed?_of_reordered seed]
  | _ => rfl

theorem output?_of_reordered {value moved : Value} (same : value.Reordered moved)
    (distinct : value.Distinct) : output? (some value) = output? (some moved) := by
  cases same with
  | table order inside =>
      have names := (Value.distinct_table_iff.1 distinct).1
      have same := Value.Reordered.table order inside
      simp only [output?, knownBy_of_reordered same,
        optional_of_reordered Value.Reordered.text?_eq names same]
  | array inside =>
      rcases inside with _ | ⟨format, others⟩
      · rfl
      · simp only [output?, format.text?_eq]
  | _ => rfl

/-- Documents that differ in the order of entries only, in whatever tables, give the same
settings or none. -/
theorem ofTable?_of_reordered {table other : Table} (distinct : (Value.table table).Distinct)
    (same : Value.Reordered (.table table) (.table other)) : ofTable? table = ofTable? other := by
  obtain ⟨names, inside⟩ := Value.distinct_table_iff.1 distinct
  have part {β : Type} {read : Option Value → Option β}
      (respects : ∀ {value moved : Value}, value.Reordered moved → value.Distinct →
        read (some value) = read (some moved)) (name : String) :
      read (table.lookup name) = read (other.lookup name) := by
    rcases lookup_of_reordered names same name with
      ⟨here, there⟩ | ⟨value, moved, here, there, like⟩
    · rw [here, there]
    · rw [here, there]
      exact respects like (inside _ ((lookup_eq_some_iff_mem names).1 here))
  simp only [ofTable?, knownBy_of_reordered same, part select?_of_reordered,
    part output?_of_reordered]

/-! ## Entries of a section -/

/-- A section of the document has that value under that name. -/
def Entered (table : Table) (part name : String) (value : Value) : Prop :=
  ∃ entries, (part, .table entries) ∈ table ∧ (name, value) ∈ entries

/-- The entries of a section.  One that is missing, or that is no table, has none. -/
def entriesOf (table : Table) (part : String) : Table :=
  match table.lookup part with
  | some (.table entries) => entries
  | _ => []

section Distinct

variable {table : Table} (distinct : (Value.table table).Distinct)

include distinct

theorem mem_entriesOf_iff {part name : String} {value : Value} :
    (name, value) ∈ entriesOf table part ↔ Entered table part name value := by
  have names := (Value.distinct_table_iff.1 distinct).1
  constructor
  · intro member
    unfold entriesOf at member
    split at member
    · rename_i entries found
      exact ⟨entries, (lookup_eq_some_iff_mem names).1 found, member⟩
    · cases member
  · rintro ⟨entries, there, member⟩
    rw [entriesOf, (lookup_eq_some_iff_mem names).2 there]
    exact member

theorem lookup_entriesOf_iff {part name : String} {value : Value} :
    (entriesOf table part).lookup name = some value ↔ Entered table part name value := by
  have names : ((entriesOf table part).map Prod.fst).Nodup := by
    unfold entriesOf
    split
    · rename_i entries found
      obtain ⟨names, inside⟩ := Value.distinct_table_iff.1 distinct
      have there := (lookup_eq_some_iff_mem names).1 found
      exact (Value.distinct_table_iff.1 (inside _ there)).1
    · exact List.nodup_nil
  rw [lookup_eq_some_iff_mem names, mem_entriesOf_iff distinct]

/-- A section that is missing is read as an empty one, by readers that make no difference. -/
theorem read_lookup {β : Type} (read : Option Value → β) {part : String}
    (missing : read none = read (some (.table [])))
    (tabular : ∀ value, (part, value) ∈ table → ∃ entries, value = .table entries) :
    read (table.lookup part) = read (some (.table (entriesOf table part))) := by
  unfold entriesOf
  cases found : table.lookup part with
  | none => exact missing
  | some value =>
      have names := (Value.distinct_table_iff.1 distinct).1
      obtain ⟨entries, rfl⟩ := tabular value ((lookup_eq_some_iff_mem names).1 found)
      rfl

end Distinct

/-- Whatever the section has under the name is of that shape. -/
def Shaped {α : Type} (table : Table) (part name : String) (shape : α → Value) : Prop :=
  ∀ value, Entered table part name value → ∃ x, value = shape x

/-- The setting is what the section has under the name, and none if it has nothing there. -/
def Gives {α : Type} (table : Table) (part name : String) (shape : α → Value)
    (setting : Option α) : Prop :=
  ∀ x, setting = some x ↔ Entered table part name (shape x)

def textArray (texts : List String) : Value := .array (texts.map .text)

/-- A whole number that is not negative. -/
def count (n : Nat) : Value := .integer n

/-- A document with the names of settings only, each in its section, and with values of the kinds
that the settings want. -/
structure Acceptable (table : Table) : Prop where
  parts : ∀ name value, (name, value) ∈ table → name ∈ ["select", "output"]
  select : ∀ name value, Entered table "select" name value → name ∈ ["network", "policy", "seed"]
  output : ∀ name value, Entered table "output" name value → name ∈ ["format"]
  network : Shaped table "select" "network" Value.text
  policy : Shaped table "select" "policy" textArray
  seed : Shaped table "select" "seed" count
  format : Shaped table "output" "format" Value.text

/-- A configuration file with the values of the document, and with nothing where the document has
no value; no list of policies is the empty list. -/
structure Holds (table : Table) (file : ConfigFile) : Prop where
  network : Gives table "select" "network" Value.text file.network
  policy : ∃ policy, Gives table "select" "policy" textArray policy ∧ file.policy = policy.getD []
  seed : Gives table "select" "seed" count file.seed
  format : Gives table "output" "format" Value.text file.format

/-- A document whose sections are tables, and whose whole numbers are of 64 bits with a sign. -/
structure Sectioned (table : Table) : Prop where
  distinct : (Value.table table).Distinct
  select : ∀ value, ("select", value) ∈ table → ∃ entries, value = .table entries
  output : ∀ value, ("output", value) ∈ table → ∃ entries, value = .table entries
  numbers : ∀ n, Value.Within (.integer n) (.table table) →
    Int64.minValue.toInt ≤ n ∧ n ≤ Int64.maxValue.toInt

def settingNames : List String := ["select", "output", "network", "policy", "seed", "format"]

/-! ## What is accepted -/

theorem optional_eq_some_iff {α : Type} {read : Value → Option α} {found : Option Value}
    {setting : Option α} :
    optional read found = some setting ↔
      (∀ value, found = some value → ∃ x, read value = some x) ∧
        ∀ x, setting = some x ↔ ∃ value, found = some value ∧ read value = some x := by
  cases found with
  | none => cases setting <;> simp [optional]
  | some value =>
      cases here : read value with
      | none => simp [optional, here]
      | some x => cases setting <;> simp [optional, here, eq_comm]

theorem seed?_eq_some_iff {value : Value} {n : Nat} :
    seed? value = some n ↔ value = count n ∧ n < Numeral.countBound := by
  constructor
  · intro given
    obtain ⟨m, here, read⟩ := Option.bind_eq_some_iff.1 given
    obtain rfl := Value.integer?_eq_some_iff.1 here
    split at read
    · rename_i fits
      obtain rfl := Option.some.inj read
      exact ⟨congrArg Value.integer (Int.toNat_of_nonneg fits.1).symm, fits.2⟩
    · cases read
  · rintro ⟨rfl, fits⟩
    have whole : 0 ≤ (n : Int) ∧ (n : Int).toNat < Numeral.countBound := ⟨by omega, fits⟩
    exact if_pos whole

theorem select?_eq_some_iff {entries : Table} {select : Select} :
    select? (some (.table entries)) = some select ↔
      knownBy ["network", "policy", "seed"] entries = true ∧
      optional Value.text? (entries.lookup "network") = some select.1 ∧
      (∃ policy, optional Value.texts? (entries.lookup "policy") = some policy ∧
        select.2.1 = policy.getD []) ∧
      optional seed? (entries.lookup "seed") = some select.2.2 := by
  by_cases known : knownBy ["network", "policy", "seed"] entries = true
  · rw [select?, if_pos known]
    constructor
    · intro read
      obtain ⟨network, here, read⟩ := Option.bind_eq_some_iff.1 read
      obtain ⟨policy, listed, read⟩ := Option.bind_eq_some_iff.1 read
      obtain ⟨seed, seeded, read⟩ := Option.bind_eq_some_iff.1 read
      obtain rfl := Option.some.inj read
      exact ⟨known, here, ⟨policy, listed, rfl⟩, seeded⟩
    · rintro ⟨-, here, ⟨policy, listed, same⟩, seeded⟩
      rw [here, listed, seeded]
      exact congrArg some (Prod.ext rfl (Prod.ext same.symm rfl))
  · simp [select?, known]

theorem output?_eq_some_iff {entries : Table} {format : Option String} :
    output? (some (.table entries)) = some format ↔
      knownBy ["format"] entries = true ∧
      optional Value.text? (entries.lookup "format") = some format := by
  by_cases known : knownBy ["format"] entries = true <;> simp [output?, known]

theorem ofTable?_eq_some_iff {table : Table} {file : ConfigFile} :
    ofTable? table = some file ↔
      knownBy ["select", "output"] table = true ∧
      select? (table.lookup "select") = some (file.network, file.policy, file.seed) ∧
      output? (table.lookup "output") = some file.format := by
  by_cases known : knownBy ["select", "output"] table = true
  · rw [ofTable?, if_pos known]
    constructor
    · intro read
      obtain ⟨⟨network, policy, seed⟩, select, read⟩ := Option.bind_eq_some_iff.1 read
      obtain ⟨format, output, read⟩ := Option.bind_eq_some_iff.1 read
      obtain rfl := Option.some.inj read
      exact ⟨known, select, output⟩
    · rintro ⟨-, select, output⟩
      rw [select, output]
      rfl
  · simp [ofTable?, known]

section Acceptable

variable {table : Table} (accepted : Acceptable table) {part name : String} {value : Value}
  (sectional : part ∈ ["select", "output"]) (entered : Entered table part name value)

include accepted sectional entered

/-- No table stands within what a section has under a name: it is a text, some texts or a
number. -/
theorem flat_of_entered (entries : Table) : ¬Value.Within (.table entries) value := by
  intro within
  rcases List.mem_pair.1 sectional with rfl | rfl
  · have known := accepted.select name value entered
    simp only [List.mem_cons, List.not_mem_nil, or_false] at known
    rcases known with rfl | rfl | rfl
    · obtain ⟨text, rfl⟩ := accepted.network value entered
      cases within
    · obtain ⟨texts, rfl⟩ := accepted.policy value entered
      cases within with
      | item member deeper =>
          obtain ⟨text, -, rfl⟩ := List.mem_map.1 member
          cases deeper
    · obtain ⟨n, rfl⟩ := accepted.seed value entered
      cases within
  · obtain rfl := List.mem_singleton.1 (accepted.output name value entered)
    obtain ⟨text, rfl⟩ := accepted.format value entered
    cases within

theorem known_of_entered : name ∈ settingNames := by
  rcases List.mem_pair.1 sectional with rfl | rfl
  · have known := accepted.select name value entered
    exact List.mem_append_left ["format"] (List.mem_append_right ["select", "output"] known)
  · have known := accepted.output name value entered
    exact List.mem_append_right ["select", "output", "network", "policy", "seed"] known

end Acceptable

section Sectioned

variable {table : Table} (sectioned : Sectioned table)

include sectioned

theorem knownBy_entriesOf_iff {part : String} {allowed : List String} :
    knownBy allowed (entriesOf table part) = true ↔
      ∀ name value, Entered table part name value → name ∈ allowed := by
  simp only [knownBy_iff, List.forall_mem_map, Prod.forall, mem_entriesOf_iff sectioned.distinct]

/-- A setting that may be missing is read exactly if what the section has under its name is of
the shape wanted, and then it is given. -/
theorem optional_lookup_iff {α : Type} {read : Value → Option α} {shape : α → Value}
    {part name : String}
    (reads : ∀ value x, Entered table part name value → (read value = some x ↔ value = shape x))
    {setting : Option α} :
    optional read ((entriesOf table part).lookup name) = some setting ↔
      Shaped table part name shape ∧ Gives table part name shape setting := by
  rw [optional_eq_some_iff]
  simp only [lookup_entriesOf_iff sectioned.distinct]
  refine and_congr ⟨?_, ?_⟩ (forall_congr' fun x => iff_congr Iff.rfl ⟨?_, ?_⟩)
  · intro read value entered
    obtain ⟨x, here⟩ := read value entered
    exact ⟨x, (reads value x entered).1 here⟩
  · intro shaped value entered
    obtain ⟨x, same⟩ := shaped value entered
    exact ⟨x, (reads value x entered).2 same⟩
  · rintro ⟨value, entered, here⟩
    exact (reads value x entered).1 here ▸ entered
  · intro entered
    exact ⟨shape x, entered, (reads _ x entered).2 rfl⟩

theorem exists_gives {α : Type} {read : Value → Option α} {shape : α → Value} {part name : String}
    (reads : ∀ value x, Entered table part name value → (read value = some x ↔ value = shape x))
    (shaped : Shaped table part name shape) :
    ∃ setting, Gives table part name shape setting := by
  have readable : ∃ setting, optional read ((entriesOf table part).lookup name) = some setting := by
    cases found : (entriesOf table part).lookup name with
    | none => exact ⟨none, rfl⟩
    | some value =>
        have entered := (lookup_entriesOf_iff sectioned.distinct).1 found
        obtain ⟨x, same⟩ := shaped value entered
        exact ⟨some x, by rw [optional, (reads value x entered).2 same, Option.map_some]⟩
  obtain ⟨setting, done⟩ := readable
  exact ⟨setting, ((optional_lookup_iff sectioned reads).1 done).2⟩

/-- A whole number of 64 bits with a sign is a seed if it is not negative. -/
theorem seed?_entered_iff (value : Value) (n : Nat)
    (entered : Entered table "select" "seed" value) :
    seed? value = some n ↔ value = count n := by
  rw [seed?_eq_some_iff]
  refine ⟨fun both => both.1, fun same => ⟨same, ?_⟩⟩
  obtain ⟨entries, there, member⟩ := entered
  have within : Value.Within value (.table table) := .entry there (.entry member (.self value))
  rw [same] at within
  have small : (n : Int) ≤ Int64.maxValue.toInt := (sectioned.numbers n within).2
  have largest : Int64.maxValue.toInt = 9223372036854775807 := by decide
  simp only [Numeral.countBound, UInt64.size]
  omega

theorem ofTable?_eq_some_iff_holds {file : ConfigFile} :
    ofTable? table = some file ↔ Acceptable table ∧ Holds table file := by
  have textual (part name : String) (value : Value) (text : String)
      (_ : Entered table part name value) : value.text? = some text ↔ value = .text text :=
    Value.text?_eq_some_iff
  have listed (value : Value) (texts : List String) (_ : Entered table "select" "policy" value) :
      value.texts? = some texts ↔ value = textArray texts :=
    Value.texts?_eq_some_iff
  have select := read_lookup sectioned.distinct select? rfl sectioned.select
  have output := read_lookup sectioned.distinct output? rfl sectioned.output
  rw [ofTable?_eq_some_iff, select, output, select?_eq_some_iff, output?_eq_some_iff,
    knownBy_entriesOf_iff sectioned, knownBy_entriesOf_iff sectioned, knownBy_iff,
    List.forall_mem_map, Prod.forall]
  simp only [optional_lookup_iff sectioned (textual "select" "network"),
    optional_lookup_iff sectioned listed,
    optional_lookup_iff sectioned (seed?_entered_iff sectioned),
    optional_lookup_iff sectioned (textual "output" "format")]
  constructor
  · rintro ⟨parts, ⟨select, network, ⟨policy, policies, same⟩, seed⟩, output, format⟩
    exact ⟨⟨parts, select, output, network.1, policies.1, seed.1, format.1⟩,
      ⟨network.2, ⟨policy, policies.2, same⟩, seed.2, format.2⟩⟩
  · rintro ⟨accepted, held⟩
    obtain ⟨policy, policies, same⟩ := held.policy
    exact ⟨accepted.parts, ⟨accepted.select, ⟨accepted.network, held.network⟩,
      ⟨policy, ⟨accepted.policy, policies⟩, same⟩, accepted.seed, held.seed⟩,
      accepted.output, accepted.format, held.format⟩

theorem exists_holds (accepted : Acceptable table) : ∃ file, Holds table file := by
  obtain ⟨network, named⟩ :=
    exists_gives sectioned (fun _ _ _ => Value.text?_eq_some_iff) accepted.network
  obtain ⟨policy, policies⟩ :=
    exists_gives sectioned (fun _ _ _ => Value.texts?_eq_some_iff) accepted.policy
  obtain ⟨seed, seeded⟩ := exists_gives sectioned (seed?_entered_iff sectioned) accepted.seed
  obtain ⟨format, formatted⟩ :=
    exists_gives sectioned (fun _ _ _ => Value.text?_eq_some_iff) accepted.format
  exact ⟨⟨network, policy.getD [], seed, format⟩, ⟨named, ⟨policy, policies, rfl⟩, seeded,
    formatted⟩⟩

/-- Every name in an acceptable document is that of a section or of a setting, at whatever depth
it stands. -/
theorem known_of_within (accepted : Acceptable table) {entries : Table} {name : String}
    {value : Value} (within : Value.Within (.table entries) (.table table))
    (member : (name, value) ∈ entries) : name ∈ settingNames := by
  cases within with
  | self => exact List.mem_append_left _ (accepted.parts name value member)
  | @entry inner part _ there deeper =>
      have sectional := accepted.parts part inner there
      have tabular : ∃ others, inner = .table others := by
        rcases List.mem_pair.1 sectional with rfl | rfl
        · exact sectioned.select inner there
        · exact sectioned.output inner there
      obtain ⟨others, rfl⟩ := tabular
      cases deeper with
      | self => exact known_of_entered accepted sectional ⟨entries, there, member⟩
      | entry found deepest =>
          exact absurd deepest (flat_of_entered accepted sectional ⟨others, there, found⟩ entries)

end Sectioned

/-- **A configuration file is taken at its word.**  A document is accepted exactly if its names
are those of the sections, those in `select` are `network`, `policy` and `seed`, that in `output`
is `format`, and every value is of the kind that its setting wants: a text, texts, or a number that
is not negative.  What it gives are those values; what it does not say is not given, and no list
of policies is the empty one.  The order of the entries does not matter in any table, and a name
that is none of these spoils the document at whatever depth it stands.

The tree of every text that is a document has distinct names, and decides what the text gives. -/
theorem reads_strictly :
    (∀ table, Sectioned table →
      ((∃ file, ofTable? table = some file) ↔ Acceptable table) ∧
      (∀ file, ofTable? table = some file ↔ Acceptable table ∧ Holds table file) ∧
      (∀ other, Value.Reordered (.table table) (.table other) → ofTable? other = ofTable? table) ∧
      ∀ entries name value, Value.Within (.table entries) (.table table) →
        (name, value) ∈ entries → name ∉ settingNames → ofTable? table = none) ∧
    ∀ (text : String) (table : Table), Toml.read? text.toList = some table →
      (Value.table table).Distinct ∧ read? text = ofTable? table := by
  refine ⟨fun table sectioned => ⟨⟨?_, ?_⟩, fun file => ofTable?_eq_some_iff_holds sectioned,
    fun other same => ?_, ?_⟩, fun text table document => ⟨distinct_of_read? document, ?_⟩⟩
  · rintro ⟨file, given⟩
    exact ((ofTable?_eq_some_iff_holds sectioned).1 given).1
  · intro accepted
    obtain ⟨file, held⟩ := exists_holds sectioned accepted
    exact ⟨file, (ofTable?_eq_some_iff_holds sectioned).2 ⟨accepted, held⟩⟩
  · exact (ofTable?_of_reordered sectioned.distinct same).symm
  · intro entries name value within member unknown
    refine Option.eq_none_iff_forall_ne_some.2 fun file given => unknown ?_
    exact known_of_within sectioned ((ofTable?_eq_some_iff_holds sectioned).1 given).1 within member
  · rw [ConfigFile.read?, document]
    rfl

def seededDocument : Table :=
  [("output", .table [("format", .text "json")]),
    ("select", .table [("seed", .integer 7), ("policy", .array [.text "shuffle", .text "max:4"])])]

/-- The same with another order of the sections and the settings. -/
def turnedDocument : Table :=
  [("select", .table [("policy", .array [.text "shuffle", .text "max:4"]), ("seed", .integer 7)]),
    ("output", .table [("format", .text "json")])]

/-- A document with a name that no section has. -/
def foreignDocument : Table := [("resolver", .table [])]

theorem sectioned_seeded : Sectioned seededDocument where
  distinct := by
    simp [seededDocument, Value.distinct_table_iff, Value.distinct_array_iff, Value.distinct_text,
      Value.distinct_integer]
  select value member := ⟨_, by simpa [seededDocument] using member⟩
  output value member := ⟨_, by simpa [seededDocument] using member⟩
  numbers n within := by
    have seven : n = 7 := by
      simpa [seededDocument, Value.within_table_iff, Value.within_array_iff, Value.within_text_iff,
        Value.within_integer_iff] using within
    subst seven
    decide

theorem sectioned_foreign : Sectioned foreignDocument where
  distinct := by simp [foreignDocument, Value.distinct_table_iff]
  select value member := by simp [foreignDocument] at member
  output value member := by simp [foreignDocument] at member
  numbers n within := by simp [foreignDocument, Value.within_table_iff] at within

theorem reordered_seeded : Value.Reordered (.table seededDocument) (.table turnedDocument) := by
  have inside := (Value.distinct_table_iff.1 sectioned_seeded.distinct).2
  refine .table (.swap _ _ []) fun name value other member there => ?_
  have distinct := inside _ member
  simp only [seededDocument, turnedDocument, List.mem_cons, List.not_mem_nil, or_false,
    Prod.mk.injEq] at member there
  rcases member with ⟨rfl, rfl⟩ | ⟨rfl, rfl⟩
  · obtain rfl : other = .table [("format", .text "json")] := by simpa using there
    exact .refl distinct
  · obtain rfl : other = .table [("policy", .array [.text "shuffle", .text "max:4"]),
        ("seed", .integer 7)] := by simpa using there
    exact .of_perm distinct (.swap _ _ [])

/-- A document gives its values in either order, and a text with a name that no section has gives
nothing. -/
theorem reads_strictly_reordered :
    Sectioned seededDocument ∧
    ofTable? seededDocument = some ⟨none, ["shuffle", "max:4"], some 7, some "json"⟩ ∧
    Entered seededDocument "select" "seed" (count 7) ∧
    Value.Reordered (.table seededDocument) (.table turnedDocument) ∧
    ofTable? turnedDocument = ofTable? seededDocument ∧
    Sectioned foreignDocument ∧
    Value.Within (.table foreignDocument) (.table foreignDocument) ∧
    ("resolver", .table []) ∈ foreignDocument ∧ "resolver" ∉ settingNames ∧
    Toml.read? "[resolver]".toList = some foreignDocument ∧
    read? "[resolver]" = none := by
  obtain ⟨strict, texts⟩ := reads_strictly
  obtain ⟨-, gives, turned, -⟩ := strict seededDocument sectioned_seeded
  obtain ⟨-, -, -, spoiled⟩ := strict foreignDocument sectioned_foreign
  let file : ConfigFile := ⟨none, ["shuffle", "max:4"], some 7, some "json"⟩
  have given : ofTable? seededDocument = some file := rfl
  have within : Value.Within (.table foreignDocument) (.table foreignDocument) := .self _
  have member : ("resolver", .table []) ∈ foreignDocument := List.mem_cons_self
  have unknown : "resolver" ∉ settingNames := by decide
  have document : Toml.read? "[resolver]".toList = some foreignDocument := rfl
  exact ⟨sectioned_seeded, given, (((gives file).1 given).2.seed 7).1 rfl, reordered_seeded,
    turned _ reordered_seeded, sectioned_foreign, within, member, unknown, document,
    (texts _ _ document).2.trans (spoiled _ _ _ within member unknown)⟩

end ConfigFile

end DialSelect
