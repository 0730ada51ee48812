/-
# DialSelect.Proofs.DistinctNames -- in a document, no table has a name twice

A value stands within a document at any depth (`Toml.Value.Within`).  The names in a document
are distinct, if in every table that stands within it no name stands twice
(`Toml.Value.Distinct`).  Then what a table has under a name does not depend on where it stands
(`Toml.lookup_eq_some_iff_mem`).

Every document that is read has distinct names (`Toml.distinct_of_read?`).  The invariant of a
document under construction is that it would have them if it was finished now
(`Toml.Entries.Sound`).  A name is only added where it is missing, and what stands under one is
only replaced by what has grown out of it, so each step keeps the invariant.
-/
import DialSelect.Toml.Document
import Mathlib.Data.List.Nodup

namespace DialSelect.Toml

set_option autoImplicit false

/-! ## Trees -/

/-- A value stands within another, at any depth. -/
inductive Value.Within : Value → Value → Prop where
  | self (value : Value) : Within value value
  | item {inner item : Value} {items : List Value} (member : item ∈ items)
      (deeper : Within inner item) : Within inner (.array items)
  | entry {inner value : Value} {name : String} {entries : Table}
      (member : (name, value) ∈ entries) (deeper : Within inner value) :
      Within inner (.table entries)

/-- In no table within the value a name stands twice. -/
def Value.Distinct (value : Value) : Prop :=
  ∀ entries, Within (.table entries) value → (entries.map Prod.fst).Nodup

namespace Value

section Within

variable {inner : Value}

theorem within_text_iff {value : String} : Within inner (.text value) ↔ inner = .text value := by
  refine ⟨fun within => ?_, fun same => same ▸ .self _⟩
  cases within
  rfl

theorem within_integer_iff {value : Int} :
    Within inner (.integer value) ↔ inner = .integer value := by
  refine ⟨fun within => ?_, fun same => same ▸ .self _⟩
  cases within
  rfl

theorem within_array_iff {items : List Value} :
    Within inner (.array items) ↔ inner = .array items ∨ ∃ item ∈ items, Within inner item := by
  constructor
  · intro within
    cases within with
    | self => exact .inl rfl
    | item member deeper => exact .inr ⟨_, member, deeper⟩
  · rintro (rfl | ⟨item, member, deeper⟩)
    · exact .self _
    · exact .item member deeper

theorem within_table_iff {entries : Table} :
    Within inner (.table entries) ↔
      inner = .table entries ∨ ∃ entry ∈ entries, Within inner entry.2 := by
  constructor
  · intro within
    cases within with
    | self => exact .inl rfl
    | entry member deeper => exact .inr ⟨_, member, deeper⟩
  · rintro (rfl | ⟨⟨name, value⟩, member, deeper⟩)
    · exact .self _
    · exact .entry member deeper

end Within

theorem distinct_text (value : String) : Distinct (.text value) := by
  intro entries within
  cases within

theorem distinct_integer (value : Int) : Distinct (.integer value) := by
  intro entries within
  cases within

theorem distinct_other (kind : OtherKind) : Distinct (.other kind) := by
  intro entries within
  cases within

theorem distinct_array_iff {items : List Value} :
    Distinct (.array items) ↔ ∀ item ∈ items, item.Distinct := by
  constructor
  · intro distinct item member entries within
    exact distinct entries (.item member within)
  · intro inside entries within
    cases within with
    | item member deeper => exact inside _ member entries deeper

theorem distinct_table_iff {entries : Table} :
    Distinct (.table entries) ↔
      (entries.map Prod.fst).Nodup ∧ ∀ entry ∈ entries, entry.2.Distinct := by
  constructor
  · intro distinct
    refine ⟨distinct entries (.self _), ?_⟩
    rintro ⟨name, value⟩ member others within
    exact distinct others (.entry member within)
  · rintro ⟨names, inside⟩ others within
    cases within with
    | self => exact names
    | entry member deeper => exact inside _ member others deeper

end Value

/-- Where no name stands twice, to look a name up is to find an entry of that name. -/
theorem lookup_eq_some_iff_mem {β : Type} {entries : List (String × β)} {name : String} {value : β}
    (names : (entries.map Prod.fst).Nodup) :
    entries.lookup name = some value ↔ (name, value) ∈ entries := by
  induction entries with
  | nil => simp
  | cons entry others ih =>
      obtain ⟨key, first⟩ := entry
      obtain ⟨fresh, names⟩ := List.nodup_cons.1 names
      by_cases here : name = key
      · subst here
        have once : (name, value) ∉ others := fun member => fresh (List.mem_map.2 ⟨_, member, rfl⟩)
        simp [once, eq_comm]
      · have differ : (name == key) = false := beq_eq_false_iff_ne.2 here
        simp [List.lookup_cons, differ, here, ih names]

theorem lookup_eq_none_iff_not_mem {β : Type} {entries : List (String × β)} {name : String} :
    entries.lookup name = none ↔ name ∉ entries.map Prod.fst := by
  simp only [List.lookup_eq_none_iff, bne_iff_ne, List.mem_map, not_exists, not_and]
  exact ⟨fun other entry member same => other entry member same.symm,
    fun absent entry member same => absent entry member same.symm⟩

/-! ## Documents under construction -/

/-- What every step keeps holds behind all of them. -/
theorem foldlM_keeps {β γ : Type} (holds : β → Prop) {step : β → γ → Option β} {good : γ → Prop}
    (keeps : ∀ before item after, good item → holds before → step before item = some after →
      holds after)
    {items : List γ} {start last : β} (all : ∀ item ∈ items, good item) (first : holds start)
    (done : items.foldlM step start = some last) : holds last := by
  induction items generalizing start with
  | nil =>
      obtain rfl := Option.some.inj done
      exact first
  | cons item others ih =>
      obtain ⟨here, later⟩ := List.forall_mem_cons.1 all
      rw [List.foldlM_cons] at done
      obtain ⟨middle, stepped, done⟩ := Option.bind_eq_some_iff.1 done
      exact ih later (keeps start item middle here first stepped) done

theorem closeEntries_eq_map (entries : Entries) :
    closeEntries entries = entries.map fun entry => (entry.1, entry.2.close) := by
  induction entries with
  | nil => rfl
  | cons entry others ih => simp only [closeEntries, ih, List.map_cons]

theorem closeItems_eq_map (items : List Entries) :
    closeItems items = items.map fun entries => .table (closeEntries entries) := by
  induction items with
  | nil => rfl
  | cons entries others ih => simp only [closeItems, ih, List.map_cons]

namespace Entries

/-- Finished now, the table would have distinct names. -/
def Sound (entries : Entries) : Prop :=
  (Value.table (closeEntries entries)).Distinct

theorem sound_iff {entries : Entries} :
    entries.Sound ↔
      (entries.map Prod.fst).Nodup ∧ ∀ entry ∈ entries, entry.2.close.Distinct := by
  rw [Sound, Value.distinct_table_iff, closeEntries_eq_map, List.map_map, List.forall_mem_map]
  rfl

theorem sound_nil : Sound [] :=
  sound_iff.2 ⟨List.nodup_nil, nofun⟩

theorem distinct_close_tables_iff {items : List Entries} :
    (Draft.tables items).close.Distinct ↔ ∀ entries ∈ items, entries.Sound := by
  rw [Draft.close, Value.distinct_array_iff, closeItems_eq_map, List.forall_mem_map]
  rfl

theorem distinct_close_tables_concat {items : List Entries} {next : Entries}
    (inside : ∀ entries ∈ items, entries.Sound) (sound : next.Sound) :
    (Draft.tables (items ++ [next])).close.Distinct := by
  refine distinct_close_tables_iff.2 fun entries member => ?_
  rcases List.mem_append.1 member with earlier | new
  · exact inside entries earlier
  · obtain rfl := List.mem_singleton.1 new
    exact sound

section Sound

variable {entries result : Entries} {key : String} {draft : Draft}

theorem Sound.of_lookup (sound : entries.Sound) (found : entries.lookup key = some draft) :
    draft.close.Distinct := by
  obtain ⟨names, inside⟩ := sound_iff.1 sound
  exact inside _ ((lookup_eq_some_iff_mem names).1 found)

theorem Sound.add (sound : entries.Sound) (fresh : entries.lookup key = none)
    (good : draft.close.Distinct) : (entries.add key draft).Sound := by
  obtain ⟨names, inside⟩ := sound_iff.1 sound
  refine sound_iff.2 ⟨?_, ?_⟩
  · rw [Entries.add, List.map_append, List.map_singleton, ← List.concat_eq_append]
    exact names.concat (lookup_eq_none_iff_not_mem.1 fresh)
  · intro entry member
    rcases List.mem_append.1 member with old | new
    · exact inside entry old
    · cases List.mem_singleton.1 new
      exact good

theorem Sound.replace (sound : entries.Sound) (good : draft.close.Distinct) :
    (entries.replace key draft).Sound := by
  obtain ⟨names, inside⟩ := sound_iff.1 sound
  refine sound_iff.2 ⟨?_, ?_⟩
  · have same : (entries.replace key draft).map Prod.fst = entries.map Prod.fst := by
      rw [Entries.replace, List.map_map]
      refine List.map_congr_left fun entry _ => ?_
      by_cases here : entry.1 = key <;> simp [here]
    rw [same]
    exact names
  · rw [Entries.replace, List.forall_mem_map]
    intro entry member
    split
    · exact good
    · exact inside entry member

theorem Sound.assign {value : Value} (plain : value.Distinct) {path : List String}
    (sound : entries.Sound) (done : Entries.assign value path entries = some result) :
    result.Sound := by
  fun_induction Entries.assign value path entries generalizing result with
  | case1 | case3 | case6 => cases done
  | case2 key entries fresh =>
      obtain rfl := Option.some.inj done
      exact sound.add fresh plain
  | case4 key path entries longer fresh ih =>
      obtain ⟨inner, grown, rfl⟩ := Option.map_eq_some_iff.1 done
      exact sound.add fresh (ih sound_nil grown)
  | case5 key path entries longer inner found ih =>
      obtain ⟨inner, grown, rfl⟩ := Option.map_eq_some_iff.1 done
      exact sound.replace (ih (sound.of_lookup found) grown)

/-- A change that keeps names distinct where it is made keeps them distinct everywhere. -/
theorem Sound.within {change : Entries → Option Entries}
    (keeps : ∀ entries result, entries.Sound → change entries = some result → result.Sound)
    {path : List String} (sound : entries.Sound)
    (done : Entries.within change path entries = some result) : result.Sound := by
  fun_induction Entries.within change path entries generalizing result with
  | case1 entries => exact keeps entries result sound done
  | case2 key path entries fresh ih =>
      obtain ⟨inner, grown, rfl⟩ := Option.map_eq_some_iff.1 done
      exact sound.add fresh (ih sound_nil grown)
  | case3 key path entries origin inner found ih =>
      obtain ⟨inner, grown, rfl⟩ := Option.map_eq_some_iff.1 done
      exact sound.replace (ih (sound.of_lookup found) grown)
  | case4 | case6 => cases done
  | case5 key path entries items found last isLast ih =>
      have inside := distinct_close_tables_iff.1 (sound.of_lookup found)
      obtain ⟨inner, grown, rfl⟩ := Option.map_eq_some_iff.1 done
      have earlier : ∀ entries ∈ items.dropLast, Sound entries :=
        fun entries member => inside entries (items.dropLast_subset member)
      have grown := ih (inside last (List.mem_of_getLast? isLast)) grown
      exact sound.replace (distinct_close_tables_concat earlier grown)

theorem Sound.openTable (sound : entries.Sound)
    (done : Entries.openTable key entries = some result) : result.Sound := by
  unfold Entries.openTable at done
  split at done
  · rename_i fresh
    obtain rfl := Option.some.inj done
    exact sound.add fresh sound_nil
  · rename_i inner found
    obtain rfl := Option.some.inj done
    have grown : Sound inner := sound.of_lookup found
    exact sound.replace grown
  · cases done

theorem Sound.openItem (sound : entries.Sound)
    (done : Entries.openItem key entries = some result) : result.Sound := by
  unfold Entries.openItem at done
  split at done
  · rename_i fresh
    obtain rfl := Option.some.inj done
    have first : (Draft.tables ([] ++ [[]])).close.Distinct :=
      distinct_close_tables_concat nofun sound_nil
    exact sound.add fresh first
  · rename_i items found
    have inside := distinct_close_tables_iff.1 (sound.of_lookup found)
    obtain rfl := Option.some.inj done
    exact sound.replace (distinct_close_tables_concat inside sound_nil)
  · cases done

theorem Sound.foldlM_assign {assignments : List (List String × Value)} (sound : entries.Sound)
    (plain : ∀ assignment ∈ assignments, assignment.2.Distinct)
    (done : assignments.foldlM (fun entries assignment =>
      Entries.assign assignment.2 assignment.1 entries) entries = some result) :
    result.Sound :=
  foldlM_keeps Sound (fun _ _ _ here sound => sound.assign here) plain sound done

end Sound

end Entries

/-! ## Values that are read -/

theorem distinct_wholeValue (number : Option Int) : (wholeValue number).Distinct := by
  cases number with
  | none => exact Value.distinct_other .numeral
  | some n => exact Value.distinct_integer n

theorem distinct_of_radixed? {digit? : Char → Option Nat} {base : Nat} {run : List Char}
    {value : Value} (read : radixed? digit? base run = some value) : value.Distinct := by
  unfold radixed? at read
  split at read
  · obtain ⟨digits, -, rfl⟩ := Option.map_eq_some_iff.1 read
    exact distinct_wholeValue _
  · cases read

theorem distinct_of_unradixed? {run text : List Char} {value : Value}
    (read : unradixed? run text = some value) : value.Distinct := by
  unfold unradixed? at read
  split at read
  · split at read
    · cases read
    · obtain ⟨number, -, rfl⟩ := Option.map_eq_some_iff.1 read
      exact Value.distinct_integer number
  · split at read
    · cases read
    · split at read
      · split at read
        · obtain ⟨digits, -, rfl⟩ := Option.map_eq_some_iff.1 read
          exact Value.distinct_other .float
        · cases read
      · split at read
        · obtain ⟨digits, -, rfl⟩ := Option.map_eq_some_iff.1 read
          exact distinct_wholeValue (decimal? digits)
        · cases read

theorem distinct_of_number? {run : List Char} {value : Value}
    (read : number? run = some value) : value.Distinct := by
  unfold number? at read
  split at read
  · exact distinct_of_radixed? read
  · exact distinct_of_radixed? read
  · exact distinct_of_radixed? read
  · dsimp only at read
    split at read
    · cases read
      exact Value.distinct_other .float
    · exact distinct_of_unradixed? read

theorem distinct_of_scalarOf? {run : List Char} {value : Value}
    (read : scalarOf? run = some value) : value.Distinct := by
  unfold scalarOf? at read
  split at read
  · cases read
    exact Value.distinct_other .boolean
  · split at read
    · cases read
      exact Value.distinct_other .datetime
    · exact distinct_of_number? read

theorem distinct_of_plainValue? {text rest : List Char} {value : Value}
    (read : plainValue? text = some (value, rest)) : value.Distinct := by
  unfold plainValue? at read
  split at read
  · obtain ⟨quoted, -, same⟩ := Option.map_eq_some_iff.1 read
    cases same
    exact Value.distinct_text _
  · obtain ⟨quoted, -, same⟩ := Option.map_eq_some_iff.1 read
    cases same
    exact Value.distinct_text _
  · obtain ⟨scalar, found, same⟩ := Option.map_eq_some_iff.1 read
    cases same
    exact distinct_of_scalarOf? found

section Items

variable {item? : List Char → Option (Value × List Char)}
  (each : ∀ text value rest, item? text = some (value, rest) → value.Distinct)

include each

theorem distinct_of_items? {fuel : Nat} {text rest : List Char} {items : List Value}
    (read : items? item? fuel text = some (items, rest)) : ∀ item ∈ items, item.Distinct := by
  induction fuel generalizing text items rest with
  | zero => cases read
  | succ fuel ih =>
      obtain ⟨text, -, read⟩ := Option.bind_eq_some_iff.1 read
      split at read
      · cases read
        exact List.forall_mem_nil _
      · obtain ⟨⟨item, behind⟩, found, read⟩ := Option.bind_eq_some_iff.1 read
        obtain ⟨next, -, read⟩ := Option.bind_eq_some_iff.1 read
        have here : item.Distinct := each _ _ _ found
        split at read
        · obtain ⟨⟨others, behind⟩, more, read⟩ := Option.bind_eq_some_iff.1 read
          cases read
          exact List.forall_mem_cons.2 ⟨here, ih more⟩
        · cases read
          exact List.forall_mem_singleton.2 here
        · cases read

theorem distinct_of_assignments? {fuel : Nat} {text rest : List Char}
    {assignments : List (List String × Value)}
    (read : assignments? item? fuel text = some (assignments, rest)) :
    ∀ assignment ∈ assignments, assignment.2.Distinct := by
  induction fuel generalizing text assignments rest with
  | zero => cases read
  | succ fuel ih =>
      obtain ⟨text, -, read⟩ := Option.bind_eq_some_iff.1 read
      split at read
      · cases read
        exact List.forall_mem_nil _
      · obtain ⟨⟨path, behind⟩, -, read⟩ := Option.bind_eq_some_iff.1 read
        obtain ⟨next, -, read⟩ := Option.bind_eq_some_iff.1 read
        split at read
        · obtain ⟨next, -, read⟩ := Option.bind_eq_some_iff.1 read
          obtain ⟨⟨value, behind⟩, found, read⟩ := Option.bind_eq_some_iff.1 read
          obtain ⟨next, -, read⟩ := Option.bind_eq_some_iff.1 read
          have here : value.Distinct := each _ _ _ found
          split at read
          · obtain ⟨⟨others, behind⟩, more, read⟩ := Option.bind_eq_some_iff.1 read
            cases read
            exact List.forall_mem_cons.2 ⟨here, ih more⟩
          · cases read
            exact List.forall_mem_singleton.2 here
          · cases read
        · cases read

end Items

theorem distinct_of_inlineTable? {assignments : List (List String × Value)} {value : Value}
    (plain : ∀ assignment ∈ assignments, assignment.2.Distinct)
    (built : inlineTable? assignments = some value) : value.Distinct := by
  obtain ⟨entries, assigned, built⟩ := Option.bind_eq_some_iff.1 built
  obtain rfl := Option.some.inj built
  exact Entries.sound_nil.foldlM_assign plain assigned

/-- Every value that is read has distinct names, by induction on the depth that is left. -/
theorem distinct_of_value? {depth : Nat} {text rest : List Char} {value : Value}
    (read : value? depth text = some (value, rest)) : value.Distinct := by
  induction depth generalizing text value rest with
  | zero => exact distinct_of_plainValue? read
  | succ depth ih =>
      have each : ∀ text value rest, value? depth text = some (value, rest) → value.Distinct :=
        fun text value rest => ih
      unfold value? at read
      split at read
      · obtain ⟨⟨items, behind⟩, found, same⟩ := Option.map_eq_some_iff.1 read
        cases same
        exact Value.distinct_array_iff.2 (distinct_of_items? each found)
      · obtain ⟨⟨assignments, behind⟩, found, read⟩ := Option.bind_eq_some_iff.1 read
        obtain ⟨table, built, read⟩ := Option.bind_eq_some_iff.1 read
        cases read
        exact distinct_of_inlineTable? (distinct_of_assignments? each found) built
      · exact distinct_of_plainValue? read

/-! ## Documents that are read -/

def Statement.Plain : Statement → Prop
  | .table _ | .item _ => True
  | .assign _ value => value.Distinct

theorem plain_of_statement? {text rest : List Char} {statement : Statement}
    (read : statement? text = some (statement, rest)) : statement.Plain := by
  unfold statement? at read
  split at read
  · obtain ⟨header, -, read⟩ := Option.bind_eq_some_iff.1 read
    cases read
    trivial
  · obtain ⟨header, -, read⟩ := Option.bind_eq_some_iff.1 read
    cases read
    trivial
  · obtain ⟨⟨path, behind⟩, -, read⟩ := Option.bind_eq_some_iff.1 read
    dsimp only at read
    split at read
    · obtain ⟨⟨value, behind⟩, found, read⟩ := Option.bind_eq_some_iff.1 read
      obtain ⟨ended, -, read⟩ := Option.bind_eq_some_iff.1 read
      cases read
      exact distinct_of_value? found
    · cases read

theorem plain_of_statementsFrom? {fuel : Nat} {text : List Char} {statements : List Statement}
    (read : statementsFrom? fuel text = some statements) :
    ∀ statement ∈ statements, statement.Plain := by
  induction fuel generalizing text statements with
  | zero => cases read
  | succ fuel ih =>
      obtain ⟨text, -, read⟩ := Option.bind_eq_some_iff.1 read
      split at read
      · cases read
        exact List.forall_mem_nil _
      · obtain ⟨⟨statement, behind⟩, found, read⟩ := Option.bind_eq_some_iff.1 read
        obtain ⟨others, more, read⟩ := Option.bind_eq_some_iff.1 read
        cases read
        exact List.forall_mem_cons.2 ⟨plain_of_statement? found, ih more⟩

/-- A statement keeps the names in the document under construction distinct. -/
theorem Statement.sound_of_apply {progress next : Progress} {statement : Statement}
    (plain : statement.Plain) (sound : progress.entries.Sound)
    (applied : statement.apply progress = some next) : next.entries.Sound := by
  cases statement with
  | table path =>
      obtain ⟨⟨outer, key⟩, -, applied⟩ := Option.bind_eq_some_iff.1 applied
      obtain ⟨entries, changed, applied⟩ := Option.bind_eq_some_iff.1 applied
      cases applied
      exact sound.within (fun _ _ sound => sound.openTable) changed
  | item path =>
      obtain ⟨⟨outer, key⟩, -, applied⟩ := Option.bind_eq_some_iff.1 applied
      obtain ⟨entries, changed, applied⟩ := Option.bind_eq_some_iff.1 applied
      cases applied
      exact sound.within (fun _ _ sound => sound.openItem) changed
  | assign path value =>
      obtain ⟨entries, changed, applied⟩ := Option.bind_eq_some_iff.1 applied
      cases applied
      exact sound.within (fun _ _ sound => sound.assign plain) changed

/-- **In a document that is read, no table has a name twice**, at any depth. -/
theorem distinct_of_read? {text : List Char} {table : Table} (read : read? text = some table) :
    (Value.table table).Distinct := by
  obtain ⟨statements, found, read⟩ := Option.bind_eq_some_iff.1 read
  obtain ⟨last, applied, read⟩ := Option.bind_eq_some_iff.1 read
  obtain rfl := Option.some.inj read
  have plain : ∀ statement ∈ statements, statement.Plain := by
    unfold statements? at found
    dsimp only at found
    split at found
    · exact plain_of_statementsFrom? found
    · cases found
  exact foldlM_keeps (fun progress => progress.entries.Sound)
    (fun _ _ _ here sound => Statement.sound_of_apply here sound) plain Entries.sound_nil applied

end DialSelect.Toml
