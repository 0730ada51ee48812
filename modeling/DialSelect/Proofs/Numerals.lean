/-
# DialSelect.Proofs.Numerals -- a number is read as it was printed

The digits of a base are the characters of the numbers below it (`Numeral.letters`),
and a printed number consists of these (`Numeral.toDigits_subset`).  A reader that
knows the value of each of them gets the printed number back, because the last digit
of `n` is that of `n % base` and the digits before it are those of `n / base`
(`Numeral.digitsFrom?_toDigits`).  No printed number but zero starts with a zero, which
is what a dotted quad asks of its fields.
-/
import DialSelect.Numeral

namespace DialSelect.Numeral

set_option autoImplicit false

variable {digit? : Char → Option Nat} {base : Nat}

/-- The digits of a base. -/
def letters (base : Nat) : List Char :=
  (List.range base).map Nat.digitChar

theorem digitChar_mem_letters {d : Nat} (small : d < base) : d.digitChar ∈ letters base :=
  List.mem_map_of_mem (List.mem_range.2 small)

theorem toDigits_subset (two : 1 < base) (n : Nat) : Nat.toDigits base n ⊆ letters base := by
  induction n using Nat.strongRecOn with
  | ind n ih =>
      by_cases small : n < base
      · rw [Nat.toDigits_of_lt_base small]
        exact List.cons_subset.2 ⟨digitChar_mem_letters small, List.nil_subset _⟩
      · have shorter : n / base < n := Nat.div_lt_self (by omega) two
        have last : n % base < base := Nat.mod_lt n (by omega)
        rw [Nat.toDigits_of_base_le two (Nat.le_of_not_lt small)]
        exact List.append_subset.2 ⟨ih _ shorter,
          List.cons_subset.2 ⟨digitChar_mem_letters last, List.nil_subset _⟩⟩

/-- Only zero is printed with a zero in front. -/
theorem eq_zero_of_head?_toDigits (two : 1 < base) {n : Nat}
    (zero : (Nat.toDigits base n).head? = some '0') : n = 0 := by
  induction n using Nat.strongRecOn with
  | ind n ih =>
      by_cases small : n < base
      · rw [Nat.toDigits_of_lt_base small] at zero
        exact Nat.digitChar_eq_zero.1 (Option.some.inj zero)
      · have shorter : n / base < n := Nat.div_lt_self (by omega) two
        rw [Nat.toDigits_of_base_le two (Nat.le_of_not_lt small), List.head?_append,
          Option.or_of_isSome (List.isSome_head?.2 Nat.toDigits_ne_nil)] at zero
        have none : n / base = 0 := ih _ shorter zero
        rw [Nat.div_eq_zero_iff] at none
        omega

theorem digitsFrom?_append (value : Nat) (front rest : List Char) :
    digitsFrom? digit? base value (front ++ rest) =
      (digitsFrom? digit? base value front).bind (digitsFrom? digit? base · rest) := by
  induction front generalizing value with
  | nil => rfl
  | cons c front ih =>
      rw [List.cons_append, digitsFrom?, digitsFrom?]
      cases digit? c with
      | none => rfl
      | some d => exact ih (value * base + d)

/-- A printed number is read back, digit by digit from the front. -/
theorem digitsFrom?_toDigits (two : 1 < base) (digit : ∀ d < base, digit? d.digitChar = some d)
    (n : Nat) : digitsFrom? digit? base 0 (Nat.toDigits base n) = some n := by
  have single (value d : Nat) (small : d < base) :
      digitsFrom? digit? base value [d.digitChar] = some (value * base + d) := by
    rw [digitsFrom?, digit d small]
    rfl
  induction n using Nat.strongRecOn with
  | ind n ih =>
      by_cases small : n < base
      · rw [Nat.toDigits_of_lt_base small, single 0 n small, Nat.zero_mul, Nat.zero_add]
      · have shorter : n / base < n := Nat.div_lt_self (by omega) two
        have last : n % base < base := Nat.mod_lt n (by omega)
        calc digitsFrom? digit? base 0 (Nat.toDigits base n)
            = (some (n / base)).bind (digitsFrom? digit? base · [(n % base).digitChar]) := by
              rw [Nat.toDigits_of_base_le two (Nat.le_of_not_lt small), digitsFrom?_append,
                ih _ shorter]
          _ = some (n / base * base + n % base) := single _ _ last
          _ = some n := congrArg some (Nat.div_add_mod' n base)

theorem digits?_of_ne_nil {text : List Char} (nonempty : text ≠ []) :
    digits? digit? base text = digitsFrom? digit? base 0 text := by
  cases text with
  | nil => exact absurd rfl nonempty
  | cons c rest => rfl

theorem digits?_toDigits (two : 1 < base) (digit : ∀ d < base, digit? d.digitChar = some d)
    (n : Nat) : digits? digit? base (Nat.toDigits base n) = some n := by
  rw [digits?_of_ne_nil Nat.toDigits_ne_nil]
  exact digitsFrom?_toDigits two digit n

theorem digitsFrom?_eq_none {text : List Char} {c : Char} (member : c ∈ text)
    (bad : digit? c = none) (value : Nat) : digitsFrom? digit? base value text = none := by
  induction text generalizing value with
  | nil => cases member
  | cons d rest ih =>
      rw [digitsFrom?]
      cases known : digit? d with
      | none => rfl
      | some digit =>
          refine ih ((List.mem_cons.1 member).resolve_left ?_) (value * base + digit)
          rintro rfl
          cases bad.symm.trans known

/-! ## Counts -/

theorem decimalDigit?_of_isDigit {c : Char} (digit : c.isDigit) :
    decimalDigit? c = some (c.toNat - '0'.toNat) :=
  if_pos (Char.isDigit_iff_toNat.1 digit)

theorem decimalDigit?_of_not_isDigit {c : Char} (other : ¬ c.isDigit) : decimalDigit? c = none :=
  if_neg fun within => other (Char.isDigit_iff_toNat.2 within)

theorem le_ofDigitChars (text : List Char) (value : Nat) :
    value ≤ Nat.ofDigitChars 10 text value := by
  induction text generalizing value with
  | nil => exact Nat.le_refl value
  | cons c rest ih =>
      rw [Nat.ofDigitChars_cons]
      refine Nat.le_trans ?_ (ih _)
      omega

/-- A run of digits is read exactly when the number it ends with is in range: no number on
the way to it is larger. -/
theorem readDigits_eq_ok_iff {text : List Char} {value n : Nat} (small : value < countBound) :
    readDigits value text = .ok n ↔
      (∀ c ∈ text, c.isDigit) ∧ Nat.ofDigitChars 10 text value = n ∧ n < countBound := by
  induction text generalizing value with
  | nil =>
      rw [readDigits, Nat.ofDigitChars_nil, Except.ok.injEq]
      exact ⟨fun same => ⟨List.forall_mem_nil _, same, same ▸ small⟩, fun read => read.2.1⟩
  | cons c rest ih =>
      rw [readDigits, List.forall_mem_cons, Nat.ofDigitChars_cons, Nat.mul_comm 10 value]
      by_cases digit : c.isDigit
      · rw [decimalDigit?_of_isDigit digit]
        dsimp only
        generalize value * 10 + (c.toNat - '0'.toNat) = next
        by_cases fits : next < countBound
        · rw [if_pos fits, ih fits]
          exact ⟨fun read => ⟨⟨digit, read.1⟩, read.2⟩, fun read => ⟨read.1.2, read.2⟩⟩
        · rw [if_neg fits]
          constructor
          · rintro ⟨⟩
          · rintro ⟨-, value, inRange⟩
            have bound := le_ofDigitChars rest next
            exact absurd (Nat.lt_of_le_of_lt (value ▸ bound) inRange) fits
      · rw [decimalDigit?_of_not_isDigit digit]
        constructor
        · rintro ⟨⟩
        · exact fun read => absurd read.1.1 digit

/-- A count as a person writes it: an optional plus sign and at least one decimal digit,
with a value in range. -/
inductive WrittenCount (text : List Char) (n : Nat) : Prop where
  | intro (sign digits : List Char) (parts : text = sign ++ digits)
      (signed : sign = [] ∨ sign = ['+']) (nonempty : digits ≠ []) (decimal : ∀ c ∈ digits, c.isDigit)
      (value : Nat.ofDigitChars 10 digits 0 = n) (inRange : n < countBound)

theorem readCount_eq_ok_iff {text : List Char} {n : Nat} :
    readCount text = .ok n ↔ WrittenCount text n := by
  have zero : 0 < countBound := by decide
  constructor
  · intro read
    unfold readCount at read
    split at read
    · cases read
    · cases read
    · rename_i rest nonempty
      obtain ⟨decimal, value, inRange⟩ := (readDigits_eq_ok_iff zero).1 read
      refine ⟨['+'], rest, rfl, .inr rfl, ?_, decimal, value, inRange⟩
      rintro rfl
      exact nonempty rfl
    · rename_i nonempty _ _
      obtain ⟨decimal, value, inRange⟩ := (readDigits_eq_ok_iff zero).1 read
      exact ⟨[], text, rfl, .inl rfl, nonempty, decimal, value, inRange⟩
  · rintro ⟨sign, digits, rfl, signed, nonempty, decimal, value, inRange⟩
    have read : readDigits 0 digits = .ok n :=
      (readDigits_eq_ok_iff zero).2 ⟨decimal, value, inRange⟩
    obtain ⟨c, rest, rfl⟩ := List.exists_cons_of_ne_nil nonempty
    have noPlus : c ≠ '+' := by
      rintro rfl
      exact absurd (decimal '+' List.mem_cons_self) (by decide)
    rcases signed with rfl | rfl
    · rw [List.nil_append, readCount]
      · exact read
      · exact nofun
      · rintro ⟨⟩
        exact noPlus rfl
      · rintro _ ⟨⟩
        exact noPlus rfl
    · exact read

/-! ## Decimal and hexadecimal -/

theorem decimalDigit?_digitChar : ∀ d < 10, decimalDigit? d.digitChar = some d := by decide

theorem hexDigit?_digitChar : ∀ d < 16, hexDigit? d.digitChar = some d := by decide

theorem decimal_subset (n : Nat) : decimal n ⊆ letters 10 :=
  toDigits_subset (by decide) n

theorem hexadecimal_subset (n : Nat) : hexadecimal n ⊆ letters 16 :=
  toDigits_subset (by decide) n

theorem decimal_injective {n m : Nat} (same : decimal n = decimal m) : n = m := by
  have read := digits?_toDigits (by decide) decimalDigit?_digitChar n
  rw [← decimal, same, decimal, digits?_toDigits (by decide) decimalDigit?_digitChar] at read
  exact (Option.some.inj read).symm

/-- A count is written as it is printed. -/
theorem writtenCount_decimal {n : Nat} (inRange : n < countBound) : WrittenCount (decimal n) n :=
  ⟨[], decimal n, rfl, .inl rfl, Nat.toDigits_ne_nil,
    fun _ member => Nat.isDigit_of_mem_toDigits (by decide) (by decide) member,
    Nat.ofDigitChars_toDigits (by decide) (by decide), inRange⟩

theorem decimalBelow?_decimal {bound n : Nat} (below : n < bound) :
    decimalBelow? bound (decimal n) = some n := by
  rw [decimalBelow?, decimal, digits?_toDigits (by decide) decimalDigit?_digitChar,
    Option.filter_some, if_pos (decide_eq_true below)]

theorem decimalBelow?_eq_none {bound : Nat} {text : List Char} {c : Char} (member : c ∈ text)
    (bad : decimalDigit? c = none) : decimalBelow? bound text = none := by
  rw [decimalBelow?, digits?_of_ne_nil (List.ne_nil_of_mem member),
    digitsFrom?_eq_none member bad]
  rfl

end DialSelect.Numeral
