/-
# DialSelect.Proofs.LetterCase -- the lower case of ASCII and of blanks

Names are compared in lower case, and that mapping knows all letters of Unicode.  Three
facts say why a name is still met by ASCII letters alone:

* a character of ASCII is mapped as the ASCII rule maps it (`Text.lower_of_isAscii`);
* of the other characters two have a character of ASCII in their lower case: the sign for
  kelvin, which becomes a `k`, and the capital dotted I, which becomes an `i` with a dot of
  its own behind it (`Text.isAscii_of_mem_lower`);
* a blank is its own lower case, and no other character becomes a blank
  (`Text.lower_of_isBlank`, `Text.isBlank_of_mem_lower`).

The table of runs is looked at in three lemmas, run by run; the rest follows from what one
run can do to a character (`Text.lower_cases`).
-/
import DialSelect.Text.Lowercase

namespace DialSelect.Text

set_option autoImplicit false

def IsAscii (c : Char) : Prop :=
  c.toNat < 0x80

instance (c : Char) : Decidable (IsAscii c) :=
  inferInstanceAs (Decidable (c.toNat < 0x80))

/-! ## The runs -/

def CaseRun.lastImage (run : CaseRun) : Nat :=
  run.image + (run.last - run.first)

/-- Two intervals of code points that have none in common. -/
def Apart (first last : Nat) (range : Nat × Nat) : Prop :=
  last < range.1 ∨ range.2 < first

instance (first last : Nat) (range : Nat × Nat) : Decidable (Apart first last range) :=
  inferInstanceAs (Decidable (_ ∨ _))

/-- The run of the capitals of ASCII. -/
def asciiRun : CaseRun := ⟨0x41, 0x5A, 1, 0x61⟩

theorem lowerRuns_eq_cons : lowerRuns = asciiRun :: lowerRuns.tail := rfl

/-- None of the other runs begins in ASCII, and one of them leads into it: that of the sign
for kelvin. -/
theorem tail_beyond_ascii : ∀ run ∈ lowerRuns.tail, 0x80 ≤ run.first ∧
    (0x80 ≤ run.image ∨ run.first = run.last ∧ run.image = 'k'.toNat) := by
  decide +kernel

/-- A run leads to characters: its images are no surrogates and not past the end. -/
theorem images_valid : ∀ run ∈ lowerRuns,
    Apart run.image run.lastImage (0xD800, 0xDFFF) ∧ run.lastImage < 0x110000 := by
  decide +kernel

theorem apart_from_blanks : ∀ run ∈ lowerRuns, ∀ range ∈ blankRanges,
    Apart run.first run.last range ∧ Apart run.image run.lastImage range := by
  decide +kernel

/-- What a run does to a code point. -/
theorem CaseRun.of_map? {run : CaseRun} {code image : Nat} (mapped : run.map? code = some image) :
    run.first ≤ code ∧ code ≤ run.last ∧ run.image ≤ image ∧ image ≤ run.lastImage := by
  unfold map? at mapped
  split at mapped
  · rename_i within
    obtain rfl := Option.some.inj mapped
    unfold lastImage
    omega
  · cases mapped

/-! ## One letter -/

/-- A letter is the capital dotted I, or its own lower case, or it lies in a run and its
lower case among the images of the run. -/
theorem lower_cases (c : Char) :
    (c = '\u0130' ∧ lower c = ['i', '\u0307']) ∨ lower c = [c] ∨
      ∃ run ∈ lowerRuns, ∃ d, lower c = [d] ∧ run.first ≤ c.toNat ∧ c.toNat ≤ run.last ∧
        run.image ≤ d.toNat ∧ d.toNat ≤ run.lastImage := by
  unfold lower
  split
  · rename_i dotted
    exact .inl ⟨dotted, rfl⟩
  · split
    · rename_i code found
      obtain ⟨run, member, mapped⟩ := List.exists_of_findSome?_eq_some found
      obtain ⟨lowest, highest, least, greatest⟩ := CaseRun.of_map? mapped
      obtain ⟨apart, small⟩ := images_valid run member
      have valid : code.isValidChar := by
        rcases apart with below | above
        · exact .inl (Nat.lt_of_le_of_lt greatest below)
        · exact .inr ⟨Nat.lt_of_lt_of_le above least, Nat.lt_of_le_of_lt greatest small⟩
      have same : (Char.ofNat code).toNat = code := by
        rw [Char.ofNat, dif_pos valid]
        rfl
      refine .inr (.inr ⟨run, member, Char.ofNat code, rfl, lowest, highest, ?_⟩)
      rw [same]
      exact ⟨least, greatest⟩
    · exact .inr (.inl rfl)

theorem asciiRun_map? : ∀ n < 0x80,
    ((asciiRun.map? n).map Char.ofNat).getD (Char.ofNat n) = (Char.ofNat n).toLower := by
  decide

theorem lower_of_isAscii {c : Char} (ascii : IsAscii c) : lower c = [c.toLower] := by
  have plain : c ≠ '\u0130' := by
    rintro rfl
    exact absurd ascii (by decide)
  have beyond : lowerRuns.tail.findSome? (fun run => run.map? c.toNat) = none := by
    refine List.findSome?_eq_none_iff.2 fun run member => if_neg fun within => ?_
    exact Nat.not_le_of_gt ascii (Nat.le_trans (tail_beyond_ascii run member).1 within.1)
  have rule := asciiRun_map? c.toNat ascii
  rw [Char.ofNat_toNat] at rule
  rw [lower, if_neg plain, lowerRuns_eq_cons, List.findSome?_cons, beyond]
  cases mapped : asciiRun.map? c.toNat with
  | none =>
      rw [mapped] at rule
      exact congrArg (fun d => [d]) rule
  | some code =>
      rw [mapped] at rule
      exact congrArg (fun d => [d]) rule

/-- Of the other characters, the sign for kelvin and the capital dotted I alone have a
character of ASCII in their lower case. -/
theorem isAscii_of_mem_lower {c d : Char} (member : d ∈ lower c) (ascii : IsAscii d)
    (noKelvin : d ≠ 'k') : IsAscii c ∨ c = '\u0130' := by
  rcases lower_cases c with ⟨dotted, -⟩ | same | ⟨run, listed, e, image, lowest, highest, least, greatest⟩
  · exact .inr dotted
  · rw [same, List.mem_singleton] at member
    exact .inl (member ▸ ascii)
  · rw [image, List.mem_singleton] at member
    subst member
    rw [lowerRuns_eq_cons] at listed
    rcases List.mem_cons.1 listed with rfl | later
    · exact .inl (Nat.lt_of_le_of_lt highest (by decide))
    · obtain ⟨-, far | ⟨single, kelvin⟩⟩ := tail_beyond_ascii run later
      · exact absurd ascii (Nat.not_lt_of_le (Nat.le_trans far least))
      · refine absurd (Char.toNat_inj.1 ?_) noKelvin
        unfold CaseRun.lastImage at greatest
        omega

/-! ## Blanks -/

theorem isBlank_iff {c : Char} :
    isBlank c = true ↔ ∃ range ∈ blankRanges, range.1 ≤ c.toNat ∧ c.toNat ≤ range.2 := by
  simp [isBlank, inRanges]

theorem lower_of_isBlank {c : Char} (blank : isBlank c = true) : lower c = [c] := by
  rcases lower_cases c with ⟨rfl, -⟩ | same | ⟨run, listed, d, -, lowest, highest, -, -⟩
  · exact absurd blank (by decide)
  · exact same
  · obtain ⟨range, among, first, last⟩ := isBlank_iff.1 blank
    rcases (apart_from_blanks run listed range among).1 with before | behind
    · omega
    · omega

/-- No other character becomes a blank. -/
theorem isBlank_of_mem_lower {c d : Char} (member : d ∈ lower c) (blank : isBlank d = true) :
    isBlank c = true := by
  rcases lower_cases c with ⟨-, dotted⟩ | same | ⟨run, listed, e, image, -, -, least, greatest⟩
  · rw [dotted] at member
    have solid : ∀ e ∈ ['i', '\u0307'], isBlank e = false :=
      List.forall_mem_cons.2 ⟨rfl, List.forall_mem_cons.2 ⟨rfl, nofun⟩⟩
    rw [solid d member] at blank
    cases blank
  · rw [same, List.mem_singleton] at member
    exact member ▸ blank
  · rw [image, List.mem_singleton] at member
    subst member
    obtain ⟨range, among, first, last⟩ := isBlank_iff.1 blank
    rcases (apart_from_blanks run listed range among).2 with before | behind
    · omega
    · omega

/-! ## A letter where it stands -/

/-- The lower case of a letter between two texts, the first one given in reverse. -/
def lowerBetween (before : List Char) (c : Char) (rest : List Char) : List Char :=
  if c = '\u03A3' then
    if casedAhead before && !casedAhead rest then ['\u03C2'] else ['\u03C3']
  else lower c

theorem lowercaseAfter_cons (before : List Char) (c : Char) (rest : List Char) :
    lowercaseAfter before (c :: rest) =
      lowerBetween before c rest ++ lowercaseAfter (c :: before) rest := rfl

variable {before rest : List Char} {c d : Char}

/-- Only the capital sigma looks at its surroundings, and it becomes a sigma. -/
theorem lowerBetween_cases (before : List Char) (c : Char) (rest : List Char) :
    lowerBetween before c rest = lower c ∨
      c = '\u03A3' ∧ (lowerBetween before c rest = ['\u03C2'] ∨
        lowerBetween before c rest = ['\u03C3']) := by
  unfold lowerBetween
  split
  · rename_i sigma
    refine .inr ⟨sigma, ?_⟩
    split
    · exact .inl rfl
    · exact .inr rfl
  · exact .inl rfl

theorem lowerBetween_of_isAscii (ascii : IsAscii c) : lowerBetween before c rest = [c.toLower] := by
  rcases lowerBetween_cases before c rest with same | ⟨rfl, -⟩
  · rw [same, lower_of_isAscii ascii]
  · exact absurd ascii (by decide)

theorem lowerBetween_of_isBlank (blank : isBlank c = true) : lowerBetween before c rest = [c] := by
  rcases lowerBetween_cases before c rest with same | ⟨rfl, -⟩
  · rw [same, lower_of_isBlank blank]
  · exact absurd blank (by decide)

theorem isAscii_of_mem_lowerBetween (member : d ∈ lowerBetween before c rest) (ascii : IsAscii d)
    (noKelvin : d ≠ 'k') : IsAscii c ∨ c = '\u0130' := by
  rcases lowerBetween_cases before c rest with same | ⟨-, final | inner⟩
  · exact isAscii_of_mem_lower (same ▸ member) ascii noKelvin
  · obtain rfl := List.mem_singleton.1 (final ▸ member)
    exact absurd ascii (by decide)
  · obtain rfl := List.mem_singleton.1 (inner ▸ member)
    exact absurd ascii (by decide)

theorem isBlank_of_mem_lowerBetween (member : d ∈ lowerBetween before c rest)
    (blank : isBlank d = true) : isBlank c = true := by
  rcases lowerBetween_cases before c rest with same | ⟨-, final | inner⟩
  · exact isBlank_of_mem_lower (same ▸ member) blank
  · obtain rfl := List.mem_singleton.1 (final ▸ member)
    exact absurd blank (by decide)
  · obtain rfl := List.mem_singleton.1 (inner ▸ member)
    exact absurd blank (by decide)

theorem lowerBetween_ne_nil (before : List Char) (c : Char) (rest : List Char) :
    lowerBetween before c rest ≠ [] := by
  rcases lowerBetween_cases before c rest with same | ⟨-, final | inner⟩
  · rw [same]
    rcases lower_cases c with ⟨-, dotted⟩ | own | ⟨run, -, e, image, -⟩
    · exact dotted ▸ List.cons_ne_nil _ _
    · exact own ▸ List.cons_ne_nil _ _
    · exact image ▸ List.cons_ne_nil _ _
  · exact final ▸ List.cons_ne_nil _ _
  · exact inner ▸ List.cons_ne_nil _ _

end DialSelect.Text
