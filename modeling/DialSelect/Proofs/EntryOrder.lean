/-
# DialSelect.Proofs.EntryOrder -- a tree, but for the order of its entries

A document says the same in whatever order the entries of its tables stand, but the items of an
array have their order (`Toml.Value.Reordered`).  Reordered tables have the same names, and under
each of them the same tree but for its order (`Toml.lookup_of_reordered`), because no name stands
twice.  A text, a number or an array of texts has but one order.
-/
import DialSelect.Proofs.DistinctNames
import Mathlib.Data.List.Forall2

namespace DialSelect.Toml

set_option autoImplicit false

/-- The same tree but for the order of the entries in its tables. -/
inductive Value.Reordered : Value → Value → Prop where
  | text (value : String) : Reordered (.text value) (.text value)
  | integer (value : Int) : Reordered (.integer value) (.integer value)
  | other (kind : OtherKind) : Reordered (.other kind) (.other kind)
  | array {items others : List Value} (inside : List.Forall₂ Reordered items others) :
      Reordered (.array items) (.array others)
  | table {entries others : Table}
      (names : (entries.map Prod.fst).Perm (others.map Prod.fst))
      (inside : ∀ name value other, (name, value) ∈ entries → (name, other) ∈ others →
        Reordered value other) : Reordered (.table entries) (.table others)

namespace Value.Reordered

/-- Where names are distinct, a tree is in one of its own orders. -/
theorem refl : ∀ {value : Value}, value.Distinct → Reordered value value
  | .text value, _ => .text value
  | .integer value, _ => .integer value
  | .other kind, _ => .other kind
  | .array items, distinct => by
      refine .array (List.forall₂_same.2 fun item member => ?_)
      have smaller : sizeOf item < sizeOf items := List.sizeOf_lt_of_mem member
      exact refl (distinct_array_iff.1 distinct item member)
  | .table entries, distinct => by
      obtain ⟨names, inside⟩ := distinct_table_iff.1 distinct
      refine .table (.refl _) fun name value other member there => ?_
      have same : value = other :=
        Option.some.inj (((lookup_eq_some_iff_mem names).2 member).symm.trans
          ((lookup_eq_some_iff_mem names).2 there))
      have smaller : sizeOf value < sizeOf entries := by
        have entry := List.sizeOf_lt_of_mem member
        simp only [Prod.mk.sizeOf_spec] at entry
        omega
      subst same
      exact refl (inside _ member)
termination_by value => sizeOf value

theorem of_perm {entries others : Table} (distinct : (Value.table entries).Distinct)
    (order : entries.Perm others) : Reordered (.table entries) (.table others) := by
  refine .table (order.map Prod.fst) fun name value other member there => ?_
  cases refl distinct with
  | table _ inside => exact inside name value other member (order.mem_iff.2 there)

variable {value other : Value} (same : Reordered value other)

include same

theorem text?_eq : value.text? = other.text? := by
  cases same <;> rfl

theorem integer?_eq : value.integer? = other.integer? := by
  cases same <;> rfl

theorem texts?_eq : value.texts? = other.texts? := by
  cases same with
  | @array items others inside =>
      show items.mapM Value.text? = others.mapM Value.text?
      induction inside with
      | nil => rfl
      | cons here _ ih => rw [List.mapM_cons, List.mapM_cons, here.text?_eq, ih]
  | _ => rfl

end Value.Reordered

/-! ## Tables -/

theorem knownBy_iff {allowed : List String} {table : Table} :
    knownBy allowed table = true ↔ ∀ name ∈ table.map Prod.fst, name ∈ allowed := by
  simp only [knownBy, List.all_eq_true, List.contains_iff_mem, List.forall_mem_map]

section Tables

variable {table other : Table} (names : (table.map Prod.fst).Nodup)
  (same : Value.Reordered (.table table) (.table other))

include same

theorem knownBy_of_reordered (allowed : List String) :
    knownBy allowed other = knownBy allowed table := by
  cases same with
  | table order inside =>
      rw [Bool.eq_iff_iff, knownBy_iff, knownBy_iff]
      exact ⟨fun all name member => all name (order.mem_iff.1 member),
        fun all name member => all name (order.mem_iff.2 member)⟩

include names

/-- Under a name, reordered tables have nothing or the same tree. -/
theorem lookup_of_reordered (name : String) :
    (table.lookup name = none ∧ other.lookup name = none) ∨
      ∃ value moved, table.lookup name = some value ∧ other.lookup name = some moved ∧
        value.Reordered moved := by
  cases same with
  | table order inside =>
      have otherNames : (other.map Prod.fst).Nodup := order.nodup_iff.1 names
      cases found : table.lookup name with
      | none =>
          have absent := lookup_eq_none_iff_not_mem.1 found
          refine .inl ⟨rfl, lookup_eq_none_iff_not_mem.2 fun member => absent ?_⟩
          exact order.mem_iff.2 member
      | some value =>
          have member := (lookup_eq_some_iff_mem names).1 found
          obtain ⟨⟨_, moved⟩, there, rfl⟩ :=
            List.mem_map.1 (order.mem_iff.1 (List.mem_map_of_mem member))
          exact .inr ⟨value, moved, rfl, (lookup_eq_some_iff_mem otherNames).2 there,
            inside _ value moved member there⟩

end Tables

end DialSelect.Toml
