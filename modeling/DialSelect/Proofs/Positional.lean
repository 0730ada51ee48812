/-
# DialSelect.Proofs.Positional -- what a row of digits denotes

A row of digits, at least one, denotes a number in positional notation (`Numeral.Denotes`): each
digit has the value that the table of its base gives it, and the last one counts for ones.  A
reader that knows the table reads exactly such rows, and finds the number
(`Numeral.digits?_eq_some_iff`).

Zeros in front do not matter to what is denoted, so how long a row may be and whether it may
start with a zero is for the grammars to say.  A row of so many digits denotes a number below
that power of the base (`Numeral.Denotes.lt_pow`).
-/
import DialSelect.Proofs.Numerals
import Mathlib.Data.List.Forall2
import Mathlib.Data.Nat.Digits.Defs

namespace DialSelect

set_option autoImplicit false

/-- What a relation says of everything that is related holds of each of some related items. -/
theorem forall_mem_of_each {α β : Type} {r : α → β → Prop} {p : α → Prop} {xs : List α}
    {ys : List β} (each : List.Forall₂ r xs ys) (holds : ∀ x y, r x y → p x) : ∀ x ∈ xs, p x :=
  ((List.forall₂_and_left xs ys).1 (each.imp fun x y related => ⟨holds x y related, related⟩)).1

namespace Numeral

/-- The decimal digits with their values. -/
def decimalDigits : List (Char × Nat) :=
  "0123456789".toList.zipIdx

/-- The hexadecimal digits of either case with their values. -/
def hexDigits : List (Char × Nat) :=
  "0123456789abcdef".toList.zipIdx ++ "0123456789ABCDEF".toList.zipIdx

/-- A row of digits, at least one, that denotes a number in positional notation. -/
inductive Denotes (digits : List (Char × Nat)) (base : Nat) (text : List Char) (n : Nat) :
    Prop where
  | intro (values : List Nat) (nonempty : text ≠ [])
      (each : List.Forall₂ (fun c d => (c, d) ∈ digits) text values)
      (positional : Nat.ofDigits base values.reverse = n)

/-- A table that holds a run of characters has each of them with its value. -/
theorem mem_of_run {digits : List (Char × Nat)} {value : Nat → Nat} {first count : Nat}
    (run : ∀ code ∈ List.range' first count, (Char.ofNat code, value code) ∈ digits) {c : Char}
    (begins : first ≤ c.toNat) (ends : c.toNat < first + count) : (c, value c.toNat) ∈ digits := by
  have entry := run c.toNat (List.mem_range'_1.2 ⟨begins, ends⟩)
  rw [Char.ofNat_toNat] at entry
  exact entry

theorem decimalDigit?_eq_some_iff {c : Char} {d : Nat} :
    decimalDigit? c = some d ↔ (c, d) ∈ decimalDigits := by
  constructor
  · intro digit
    have run : ∀ code ∈ List.range' 48 10, (Char.ofNat code, code - 48) ∈ decimalDigits := by
      decide
    unfold decimalDigit? at digit
    split at digit
    · rename_i within
      obtain rfl := Option.some.inj digit
      exact mem_of_run run within.1 (Nat.lt_succ_of_le within.2)
    · cases digit
  · have table : ∀ entry ∈ decimalDigits, decimalDigit? entry.1 = some entry.2 := by decide
    exact table (c, d)

theorem hexDigit?_eq_some_iff {c : Char} {d : Nat} :
    hexDigit? c = some d ↔ (c, d) ∈ hexDigits := by
  constructor
  · intro digit
    have numbers : ∀ code ∈ List.range' 48 10, (Char.ofNat code, code - 48) ∈ hexDigits := by
      decide
    have lower : ∀ code ∈ List.range' 97 6, (Char.ofNat code, code - 97 + 10) ∈ hexDigits := by
      decide
    have upper : ∀ code ∈ List.range' 65 6, (Char.ofNat code, code - 65 + 10) ∈ hexDigits := by
      decide
    unfold hexDigit? at digit
    split at digit
    · rename_i within
      obtain rfl := Option.some.inj digit
      exact mem_of_run numbers within.1 (Nat.lt_succ_of_le within.2)
    · split at digit
      · rename_i within
        obtain rfl := Option.some.inj digit
        exact mem_of_run lower within.1 (Nat.lt_succ_of_le within.2)
      · split at digit
        · rename_i within
          obtain rfl := Option.some.inj digit
          exact mem_of_run upper within.1 (Nat.lt_succ_of_le within.2)
        · cases digit
  · have table : ∀ entry ∈ hexDigits, hexDigit? entry.1 = some entry.2 := by decide
    exact table (c, d)

section Reading

variable {digit? : Char → Option Nat} {digits : List (Char × Nat)} {base : Nat}

/-- A row of digits is read as its values are added up from the front. -/
theorem digitsFrom?_eq_some_iff (known : ∀ {c d}, digit? c = some d ↔ (c, d) ∈ digits)
    {text : List Char} {value n : Nat} :
    digitsFrom? digit? base value text = some n ↔
      ∃ values, List.Forall₂ (fun c d => (c, d) ∈ digits) text values ∧
        values.foldl (fun sum d => d + base * sum) value = n := by
  induction text generalizing value with
  | nil => simp [digitsFrom?]
  | cons c rest ih =>
      rw [digitsFrom?]
      cases read : digit? c with
      | none =>
          constructor
          · rintro ⟨⟩
          · rintro ⟨_, each, -⟩
            cases each with
            | cons here later => cases read.symm.trans (known.2 here)
      | some d =>
          dsimp only
          rw [ih, Nat.add_comm, Nat.mul_comm]
          constructor
          · rintro ⟨values, each, sum⟩
            exact ⟨d :: values, .cons (known.1 read) each, sum⟩
          · rintro ⟨_, each, sum⟩
            cases each with
            | cons here later =>
                obtain rfl := Option.some.inj (read.symm.trans (known.2 here))
                exact ⟨_, later, sum⟩

theorem digits?_eq_some_iff (known : ∀ {c d}, digit? c = some d ↔ (c, d) ∈ digits)
    {text : List Char} {n : Nat} :
    digits? digit? base text = some n ↔ Denotes digits base text n := by
  have sum (values : List Nat) : Nat.ofDigits base values.reverse =
      values.foldl (fun sum d => d + base * sum) 0 := by
    rw [Nat.ofDigits_eq_foldr, List.foldr_reverse]
    rfl
  cases text with
  | nil =>
      constructor
      · rintro ⟨⟩
      · rintro ⟨_, nonempty, -⟩
        exact absurd rfl nonempty
  | cons c rest =>
      have begun : c :: rest ≠ [] := List.cons_ne_nil c rest
      rw [digits?_of_ne_nil begun, digitsFrom?_eq_some_iff known]
      constructor
      · rintro ⟨values, each, added⟩
        exact ⟨values, begun, each, (sum values).trans added⟩
      · rintro ⟨values, -, each, positional⟩
        exact ⟨values, each, (sum values).symm.trans positional⟩

theorem Denotes.ne_nil {text : List Char} {n : Nat} (denotes : Denotes digits base text n) :
    text ≠ [] := by
  obtain ⟨values, nonempty, -⟩ := denotes
  exact nonempty

theorem Denotes.subset {text : List Char} {n : Nat} (denotes : Denotes digits base text n) :
    text ⊆ digits.map Prod.fst := by
  obtain ⟨values, -, each, -⟩ := denotes
  exact forall_mem_of_each each fun c d entry => List.mem_map_of_mem entry

/-- A number has no more digits than its place in their powers allows. -/
theorem Denotes.lt_pow (small : ∀ entry ∈ digits, entry.2 < base) (two : 1 < base)
    {text : List Char} {n : Nat} (denotes : Denotes digits base text n) :
    n < base ^ text.length := by
  obtain ⟨values, -, each, rfl⟩ := denotes
  have below : ∀ d ∈ values, d < base :=
    forall_mem_of_each (List.Forall₂.flip each) fun d c entry => small (c, d) entry
  rw [each.length_eq, ← List.length_reverse]
  exact Nat.ofDigits_lt_base_pow_length two fun d member => below d (List.mem_reverse.1 member)

end Reading

theorem decimalBelow?_eq_some_iff {bound n : Nat} {text : List Char} :
    decimalBelow? bound text = some n ↔ Denotes decimalDigits 10 text n ∧ n < bound := by
  rw [decimalBelow?, Option.filter_eq_some_iff, digits?_eq_some_iff decimalDigit?_eq_some_iff,
    decide_eq_true_eq]

/-- A number that fits a word is found in the word. -/
theorem denotes_toNat_iff {digits : List (Char × Nat)} {base bound : Nat} {text : List Char}
    {Word : Type} {word : Word} {ofNat : Nat → Word} {toNat : Word → Nat}
    (back : ∀ n < bound, toNat (ofNat n) = n) (fits : toNat word < bound)
    (forth : ofNat (toNat word) = word) :
    (∃ n, (Denotes digits base text n ∧ n < bound) ∧ ofNat n = word) ↔
      Denotes digits base text (toNat word) := by
  constructor
  · rintro ⟨n, ⟨denotes, below⟩, rfl⟩
    rw [back n below]
    exact denotes
  · intro denotes
    exact ⟨toNat word, ⟨denotes, fits⟩, forth⟩

end Numeral

end DialSelect
