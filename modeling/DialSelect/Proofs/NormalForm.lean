/-
# DialSelect.Proofs.NormalForm -- what a name's normal form says about the name

Names are compared in a normal form: the lower case of Unicode, with hyphens for
underscores.  For ASCII that is `Policy.fold`, character by character.  Other letters do
not pass for those of a name: a text whose normal form is a name is that name folded
(`Policy.normalAfter_eq_iff`), and so is the front of a text whose normal form begins with
one (`Policy.normalAfter_eq_append_iff`).  The two laws differ in the letters they allow: a
capital dotted I leaves its dot behind the `i`, which a whole name shows and a name in
front need not.

A text's own blanks are the blanks of its normal form, so it does not matter which of the
two is trimmed (`Policy.trim_normalAfter`).

The final sigma makes the normal form of a text depend on what stands before it, so
everything is said of a text that stands after another one.
-/
import DialSelect.Policy.Basic
import DialSelect.Proofs.Fields
import DialSelect.Proofs.LetterCase

namespace DialSelect.Policy

set_option autoImplicit false

open Text (IsAscii isBlank trim trimStart lowercaseAfter lowerBetween)

/-- A character up to the case of ASCII letters and the choice between `_` and `-`. -/
def fold (c : Char) : Char :=
  if c = '_' then '-' else c.toLower

def hyphen (c : Char) : Char :=
  if c = '_' then '-' else c

/-- The normal form of a text that stands after `before`, given in reverse. -/
def normalAfter (before text : List Char) : List Char :=
  (lowercaseAfter before text).map hyphen

theorem normalize_eq (text : String) : normalize text = normalAfter [] (trim text.toList) := rfl

theorem normalAfter_cons (before : List Char) (c : Char) (rest : List Char) :
    normalAfter before (c :: rest) =
      (lowerBetween before c rest).map hyphen ++ normalAfter (c :: before) rest := by
  rw [normalAfter, Text.lowercaseAfter_cons, List.map_append]
  rfl

/-! ## Folding -/

theorem hyphen_toLower : ∀ n < 0x80, hyphen (Char.ofNat n).toLower = fold (Char.ofNat n) := by
  decide

theorem fold_of_not_isAscii {c : Char} (other : ¬ IsAscii c) : fold c = c := by
  have high : 0x80 ≤ c.toNat := Nat.le_of_not_lt other
  have noUnderscore : c ≠ '_' := by
    rintro rfl
    exact absurd high (by decide)
  rw [fold, if_neg noUnderscore]
  refine dif_neg fun capital => ?_
  have upper : c.toNat ≤ 'Z'.toNat := capital.2
  exact absurd (Nat.le_trans high upper) (by decide)

theorem isAscii_of_isAscii_fold {c : Char} (ascii : IsAscii (fold c)) : IsAscii c := by
  by_cases plain : IsAscii c
  · exact plain
  · exact fold_of_not_isAscii plain ▸ ascii

/-- The marks of a limit: the colon, the plus sign and the digits. -/
def marks : List Char :=
  [':', '+', '0', '1', '2', '3', '4', '5', '6', '7', '8', '9']

theorem isAscii_of_mem_marks : ∀ d ∈ marks, IsAscii d ∧ d ≠ 'k' ∧ d ≠ 'i' ∧ fold d = d :=
  Text.forall_mem_of_all (by decide)

/-- Nothing but a mark is folded to a mark. -/
theorem eq_of_fold_mem_marks {c : Char} (mark : fold c ∈ marks) : fold c = c := by
  have ascii : IsAscii c := isAscii_of_isAscii_fold (isAscii_of_mem_marks _ mark).1
  have table : ∀ n < 0x80, fold (Char.ofNat n) ∈ marks → fold (Char.ofNat n) = Char.ofNat n := by
    decide
  rw [← Char.ofNat_toNat c] at mark ⊢
  exact table c.toNat ascii mark

theorem mem_marks_of_isDigit {c : Char} (digit : c.isDigit) : c ∈ marks := by
  have table : ∀ n < 0x80, (Char.ofNat n).isDigit → Char.ofNat n ∈ marks := by decide
  rw [← Char.ofNat_toNat c] at digit ⊢
  refine table c.toNat (Nat.lt_of_le_of_lt (Char.isDigit_iff_toNat.1 ?_).2 (by decide)) digit
  rwa [Char.ofNat_toNat] at digit

theorem solid_marks : Text.Solid marks :=
  Text.forall_mem_of_all (by decide)

theorem map_fold_eq_iff {text word : List Char} (within : word ⊆ marks) :
    text.map fold = word ↔ text = word := by
  constructor
  · rintro rfl
    refine (List.map_congr_left fun c member => ?_).trans (List.map_id text) |>.symm
    exact eq_of_fold_mem_marks (within (List.mem_map_of_mem member))
  · rintro rfl
    refine (List.map_congr_left fun c member => ?_).trans (List.map_id text)
    exact (isAscii_of_mem_marks c (within member)).2.2.2

/-! ## Whole names and names in front -/

section Normal

variable {before text : List Char}

theorem eq_of_hyphen {c d : Char} (same : hyphen c = d) : c = d ∨ c = '_' := by
  unfold hyphen at same
  split at same
  · rename_i underscore
    exact .inr underscore
  · exact .inl same

theorem map_hyphen_lowerBetween {c : Char} (ascii : IsAscii c) (rest : List Char) :
    (lowerBetween before c rest).map hyphen = [fold c] := by
  have folded := hyphen_toLower c.toNat ascii
  rw [Char.ofNat_toNat] at folded
  rw [Text.lowerBetween_of_isAscii ascii, List.map_singleton, folded]

/-- A letter with a character of ASCII in its normal form is of ASCII, unless it is the
sign for kelvin or the capital dotted I. -/
theorem isAscii_of_mem_map_hyphen {c d : Char} {rest : List Char}
    (member : d ∈ (lowerBetween before c rest).map hyphen) (ascii : IsAscii d)
    (noKelvin : d ≠ 'k') : IsAscii c ∨ c = '\u0130' := by
  obtain ⟨e, inside, same⟩ := List.mem_map.1 member
  refine Text.isAscii_of_mem_lowerBetween inside ?_ ?_
  · rcases eq_of_hyphen same with rfl | rfl
    · exact ascii
    · decide
  · rintro rfl
    exact noKelvin same.symm

/-- The normal form of an ASCII text is the text folded. -/
theorem normalAfter_of_isAscii (ascii : ∀ c ∈ text, IsAscii c) :
    normalAfter before text = text.map fold := by
  induction text generalizing before with
  | nil => rfl
  | cons c rest ih =>
      rw [normalAfter_cons, map_hyphen_lowerBetween (ascii c List.mem_cons_self),
        ih fun d member => ascii d (List.mem_cons_of_mem c member)]
      rfl

/-- A text with a normal form in ASCII is an ASCII text, if no `k` stands in that form: the
capital dotted I leaves its dot behind. -/
theorem isAscii_of_normalAfter
    (ascii : ∀ d ∈ normalAfter before text, IsAscii d ∧ d ≠ 'k') : ∀ c ∈ text, IsAscii c := by
  induction text generalizing before with
  | nil => exact nofun
  | cons c rest ih =>
      rw [normalAfter_cons, List.forall_mem_append] at ascii
      obtain ⟨image, ascii⟩ := ascii
      refine List.forall_mem_cons.2 ⟨?_, ih ascii⟩
      obtain ⟨d, others, letters⟩ :=
        List.exists_cons_of_ne_nil (Text.lowerBetween_ne_nil before c rest)
      have first : hyphen d ∈ (lowerBetween before c rest).map hyphen := by
        rw [letters]
        exact List.mem_cons_self
      rcases isAscii_of_mem_map_hyphen first (image _ first).1 (image _ first).2 with plain | rfl
      · exact plain
      · have dot : '\u0307' ∈ (lowerBetween before '\u0130' rest).map hyphen :=
          List.mem_cons_of_mem 'i' List.mem_cons_self
        exact absurd (image _ dot).1 (by decide)

/-- **A whole name.** -/
theorem normalAfter_eq_iff {word : List Char} (plain : ∀ d ∈ word, IsAscii d ∧ d ≠ 'k') :
    normalAfter before text = word ↔ text.map fold = word := by
  constructor
  · rintro rfl
    exact (normalAfter_of_isAscii (isAscii_of_normalAfter plain)).symm
  · rintro rfl
    refine normalAfter_of_isAscii fun c member => ?_
    exact isAscii_of_isAscii_fold (plain _ (List.mem_map_of_mem member)).1

theorem normalAfter_eq_cons_iff {d : Char} {others : List Char} (ascii : IsAscii d)
    (noKelvin : d ≠ 'k') (noDot : d ≠ 'i') :
    normalAfter before text = d :: others ↔
      ∃ c rest, text = c :: rest ∧ fold c = d ∧ normalAfter (c :: before) rest = others := by
  constructor
  · intro normal
    cases text with
    | nil => cases normal
    | cons c rest =>
        rw [normalAfter_cons] at normal
        have plain : IsAscii c := by
          obtain ⟨e, letters, image⟩ :=
            List.exists_cons_of_ne_nil (Text.lowerBetween_ne_nil before c rest)
          have first : d ∈ (lowerBetween before c rest).map hyphen := by
            rw [image] at normal ⊢
            exact (List.cons.inj normal).1 ▸ List.mem_cons_self
          refine (isAscii_of_mem_map_hyphen first ascii noKelvin).resolve_right ?_
          rintro rfl
          exact noDot (List.cons.inj normal).1.symm
        rw [map_hyphen_lowerBetween plain] at normal
        obtain ⟨folded, normal⟩ := List.cons.inj normal
        exact ⟨c, rest, rfl, folded, normal⟩
  · rintro ⟨c, rest, rfl, rfl, rfl⟩
    rw [normalAfter_cons, map_hyphen_lowerBetween (isAscii_of_isAscii_fold ascii)]
    rfl

/-- **A name in front.** -/
theorem normalAfter_eq_append_iff {word others : List Char}
    (plain : ∀ d ∈ word, IsAscii d ∧ d ≠ 'k' ∧ d ≠ 'i') :
    normalAfter before text = word ++ others ↔
      ∃ front rest, text = front ++ rest ∧ front.map fold = word ∧
        normalAfter (front.reverse ++ before) rest = others := by
  induction word generalizing before text with
  | nil =>
      constructor
      · intro normal
        exact ⟨[], text, rfl, rfl, normal⟩
      · rintro ⟨front, rest, rfl, folded, normal⟩
        obtain rfl := List.map_eq_nil_iff.1 folded
        exact normal
  | cons d word ih =>
      obtain ⟨⟨ascii, noKelvin, noDot⟩, later⟩ := List.forall_mem_cons.1 plain
      rw [List.cons_append, normalAfter_eq_cons_iff ascii noKelvin noDot]
      constructor
      · rintro ⟨c, behind, rfl, rfl, normal⟩
        obtain ⟨front, rest, rfl, rfl, ended⟩ := (ih later).1 normal
        refine ⟨c :: front, rest, rfl, rfl, ?_⟩
        rw [List.reverse_cons, List.append_assoc]
        exact ended
      · rintro ⟨front, rest, rfl, folded, normal⟩
        obtain ⟨c, front, rfl, rfl, rfl⟩ := List.map_eq_cons_iff.1 folded
        refine ⟨c, front ++ rest, rfl, rfl, (ih later).2 ⟨front, rest, rfl, rfl, ?_⟩⟩
        rw [List.reverse_cons, List.append_assoc] at normal
        exact normal

/-! ## Blanks -/

theorem hyphen_of_isBlank {c : Char} (blank : isBlank c = true) : hyphen c = c := by
  refine if_neg ?_
  rintro rfl
  exact absurd blank (by decide)

theorem isBlank_of_isBlank_hyphen {c : Char} (blank : isBlank (hyphen c) = true) :
    isBlank c = true := by
  unfold hyphen at blank
  split at blank
  · exact absurd blank (by decide)
  · exact blank

/-- Nothing but a blank has a blank in its normal form. -/
theorem solid_map_hyphen (before rest : List Char) {c : Char} (solid : isBlank c = false) :
    Text.Solid ((lowerBetween before c rest).map hyphen) := by
  intro d member
  obtain ⟨e, inside, rfl⟩ := List.mem_map.1 member
  refine Bool.eq_false_iff.2 fun blank => ?_
  have image := Text.isBlank_of_mem_lowerBetween inside (isBlank_of_isBlank_hyphen blank)
  exact absurd image (Bool.eq_false_iff.1 solid)

theorem trimStart_normalAfter (before text : List Char) :
    ∃ context, trimStart (normalAfter before text) = normalAfter context (trimStart text) := by
  induction text generalizing before with
  | nil => exact ⟨before, rfl⟩
  | cons c rest ih =>
      cases blank : isBlank c with
      | true =>
          obtain ⟨context, trimmed⟩ := ih (c :: before)
          refine ⟨context, ?_⟩
          have front : trimStart (c :: rest) = trimStart rest :=
            Text.trimStart_append (List.forall_mem_singleton.2 blank) rest
          rw [normalAfter_cons, Text.lowerBetween_of_isBlank blank, List.map_singleton,
            hyphen_of_isBlank blank, front, ← trimmed]
          exact Text.trimStart_append (List.forall_mem_singleton.2 blank) _
      | false =>
          refine ⟨before, ?_⟩
          obtain ⟨d, letters, image⟩ :=
            List.exists_cons_of_ne_nil (Text.lowerBetween_ne_nil before c rest)
          have solid : isBlank (hyphen d) = false :=
            solid_map_hyphen before rest blank _
              (image ▸ List.mem_map_of_mem List.mem_cons_self)
          rw [Text.trimStart_cons blank, normalAfter_cons, image, List.map_cons, List.cons_append,
            Text.trimStart_cons solid]

theorem normalAfter_ne_nil (before : List Char) (nonempty : text ≠ []) :
    normalAfter before text ≠ [] := by
  obtain ⟨c, rest, rfl⟩ := List.exists_cons_of_ne_nil nonempty
  rw [normalAfter_cons]
  refine List.append_ne_nil_of_left_ne_nil (fun empty => ?_) _
  exact Text.lowerBetween_ne_nil before c rest (List.map_eq_nil_iff.1 empty)

theorem endsSolid_normalAfter (before : List Char) (ended : Text.EndsSolid text) :
    Text.EndsSolid (normalAfter before text) := by
  induction text generalizing before with
  | nil => exact nofun
  | cons c rest ih =>
      rw [normalAfter_cons]
      cases rest with
      | nil =>
          rw [normalAfter, lowercaseAfter, List.map_nil, List.append_nil]
          exact (solid_map_hyphen before [] (ended c rfl)).endsSolid
      | cons e others =>
          have behind : Text.EndsSolid (e :: others) := ended.of_append [c]
          exact (ih (c :: before) behind).append _ (normalAfter_ne_nil _ (List.cons_ne_nil e others))

/-- Of a text that does not end in a blank, what remains of the normal form when it is trimmed
is normal for what remains of the text. -/
theorem trim_normalAfter (before : List Char) (ended : Text.EndsSolid text) :
    ∃ context, trim (normalAfter before text) = normalAfter context (trimStart text) := by
  obtain ⟨context, trimmed⟩ := trimStart_normalAfter before text
  refine ⟨context, ?_⟩
  have behind : Text.EndsSolid (trimStart text) := by
    rw [← List.takeWhile_append_dropWhile (p := isBlank) (l := text)] at ended
    exact ended.of_append _
  rw [trim, trimmed, Text.trimEnd_of_endsSolid (endsSolid_normalAfter context behind)]

end Normal

end DialSelect.Policy
