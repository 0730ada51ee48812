/-
# DialSelect.Proofs.Fields -- cutting undoes joining

A printer joins parts with a separator that none of them contains, and a reader cuts
at that separator.  Cutting at the first occurrence gives back what stands in front of
it (`Text.cut?_append`), cutting at every occurrence gives back the parts
(`Text.fields_joinWith`), and where the separator is a blank, the parts are the words
of the text (`Text.words_joinWith`).

A text without blanks is called solid.  Trimming takes blanks away at both ends and nothing
else (`Text.exists_eq_trim`), and it leaves exactly those texts alone that have no blank at
either end (`Text.trim_eq_self_iff`).
-/
import DialSelect.Text.Blank
import DialSelect.Text.Fields

namespace DialSelect.Text

set_option autoImplicit false

variable {separator : Char}

/-! ## Letters -/

/-- What a check of every letter says of each.  A statement about all letters of a list is
decided this way, and not by going through all characters. -/
theorem forall_mem_of_all {p : Char → Prop} [DecidablePred p] {letters : List Char}
    (checked : (letters.all fun c => decide (p c)) = true) : ∀ c ∈ letters, p c :=
  fun c member => of_decide_eq_true (List.all_eq_true.1 checked c member)

/-- Parts as texts, and texts as parts. -/
theorem map_ofList_eq_iff {parts : List (List Char)} {texts : List String} :
    parts.map String.ofList = texts ↔ parts = texts.map String.toList := by
  constructor
  · rintro rfl
    simp [Function.comp_def]
  · rintro rfl
    simp [Function.comp_def]

/-! ## The first occurrence -/

theorem cut?_eq_none {text : List Char} (free : separator ∉ text) : cut? separator text = none := by
  induction text with
  | nil => rfl
  | cons c rest ih =>
      obtain ⟨differ, free⟩ := List.ne_and_not_mem_of_not_mem_cons free
      rw [cut?, if_neg differ.symm, ih free]
      rfl

theorem cut?_append {front : List Char} (free : separator ∉ front) (rest : List Char) :
    cut? separator (front ++ separator :: rest) = some (front, rest) := by
  induction front with
  | nil => exact if_pos rfl
  | cons c front ih =>
      obtain ⟨differ, free⟩ := List.ne_and_not_mem_of_not_mem_cons free
      rw [List.cons_append, cut?, if_neg differ.symm, ih free]
      rfl

/-! ## In front -/

theorem stripLead?_append (lead rest : List Char) : stripLead? lead (lead ++ rest) = some rest := by
  induction lead with
  | nil => rfl
  | cons c lead ih =>
      rw [List.cons_append, stripLead?, if_pos rfl]
      exact ih

theorem stripLead?_eq_some_iff {lead text rest : List Char} :
    stripLead? lead text = some rest ↔ text = lead ++ rest :=
  ⟨eq_of_stripLead?, fun same => same ▸ stripLead?_append lead rest⟩

/-! ## Every occurrence -/

theorem fields_of_free {text : List Char} (free : separator ∉ text) :
    fields separator text = [text] := by
  induction text with
  | nil => rfl
  | cons c rest ih =>
      obtain ⟨differ, free⟩ := List.ne_and_not_mem_of_not_mem_cons free
      rw [fields, if_neg differ.symm, ih free]

theorem fields_append {front : List Char} (free : separator ∉ front) (rest : List Char) :
    fields separator (front ++ separator :: rest) = front :: fields separator rest := by
  induction front with
  | nil => exact if_pos rfl
  | cons c front ih =>
      obtain ⟨differ, free⟩ := List.ne_and_not_mem_of_not_mem_cons free
      rw [List.cons_append, fields, if_neg differ.symm, ih free]

/-- Cutting loses the separators and nothing else. -/
theorem flatten_fields (text : List Char) :
    (fields separator text).flatten = text.filter (· ≠ separator) := by
  induction text with
  | nil => rfl
  | cons c rest ih =>
      rw [fields]
      split
      · rename_i same
        simpa [same] using ih
      · rename_i differ
        split
        · rename_i nothing
          exact absurd nothing (fields_ne_nil separator rest)
        · rename_i first others parts
          rw [parts] at ih
          simpa [differ] using ih

/-- Every other character stands in a field. -/
theorem mem_fields {text : List Char} {c : Char} (member : c ∈ text) (other : c ≠ separator) :
    ∃ field ∈ fields separator text, c ∈ field := by
  have kept : c ∈ (fields separator text).flatten := by
    rw [flatten_fields]
    exact List.mem_filter.2 ⟨member, decide_eq_true other⟩
  exact List.mem_flatten.1 kept

theorem not_mem_of_mem_fields {text field : List Char} (member : field ∈ fields separator text) :
    separator ∉ field := by
  intro inside
  have kept : separator ∈ (fields separator text).flatten :=
    List.mem_flatten_of_mem member inside
  rw [flatten_fields] at kept
  exact of_decide_eq_true (List.mem_filter.1 kept).2 rfl

theorem joinWith_cons (lead part : List Char) {others : List (List Char)} (more : others ≠ []) :
    joinWith lead (part :: others) = part ++ lead ++ joinWith lead others := by
  cases others with
  | nil => exact absurd rfl more
  | cons next rest => rfl

/-- Parts without the separator are the fields of the text they are joined to. -/
theorem fields_joinWith {parts : List (List Char)} (nonempty : parts ≠ [])
    (free : ∀ part ∈ parts, separator ∉ part) :
    fields separator (joinWith [separator] parts) = parts := by
  induction parts with
  | nil => exact absurd rfl nonempty
  | cons part others ih =>
      have here : separator ∉ part := free part List.mem_cons_self
      cases others with
      | nil => exact fields_of_free here
      | cons next rest =>
          rw [joinWith_cons _ part (List.cons_ne_nil next rest), List.append_assoc,
            List.singleton_append, fields_append here,
            ih (List.cons_ne_nil next rest) fun p inside => free p (List.mem_cons_of_mem _ inside)]

theorem joinWith_fields (text : List Char) :
    joinWith [separator] (fields separator text) = text := by
  induction text with
  | nil => rfl
  | cons c rest ih =>
      rw [fields]
      split
      · rename_i same
        rw [joinWith_cons _ [] (fields_ne_nil separator rest), ih, same]
        rfl
      · split
        · rename_i nothing
          exact absurd nothing (fields_ne_nil separator rest)
        · rename_i field others parts
          rw [parts] at ih
          cases others with
          | nil => exact congrArg (c :: ·) ih
          | cons next later =>
              rw [joinWith_cons _ field (List.cons_ne_nil next later)] at ih
              rw [joinWith_cons _ (c :: field) (List.cons_ne_nil next later)]
              exact congrArg (c :: ·) ih

/-- Cutting gives back what was joined exactly if no part has the separator in it. -/
theorem fields_joinWith_eq_iff {parts : List (List Char)} (nonempty : parts ≠ []) :
    fields separator (joinWith [separator] parts) = parts ↔ ∀ part ∈ parts, separator ∉ part := by
  constructor
  · intro same part member
    rw [← same] at member
    exact not_mem_of_mem_fields member
  · exact fields_joinWith nonempty

/-- Between any two parts stands the separator. -/
theorem mem_joinWith {parts : List (List Char)} (two : 2 ≤ parts.length) :
    separator ∈ joinWith [separator] parts := by
  match parts, two with
  | part :: next :: rest, _ =>
      rw [joinWith_cons _ part (List.cons_ne_nil next rest)]
      exact List.mem_append_left _ (List.mem_append_right _ List.mem_cons_self)

/-- What is joined is made of the characters of the parts and of the separator. -/
theorem joinWith_subset {lead letters : List Char} {parts : List (List Char)}
    (between : lead ⊆ letters) (within : ∀ part ∈ parts, part ⊆ letters) :
    joinWith lead parts ⊆ letters := by
  induction parts with
  | nil => exact List.nil_subset letters
  | cons part others ih =>
      have here : part ⊆ letters := within part List.mem_cons_self
      cases others with
      | nil => exact here
      | cons next rest =>
          rw [joinWith_cons lead part (List.cons_ne_nil next rest)]
          exact List.append_subset.2 ⟨List.append_subset.2 ⟨here, between⟩,
            ih fun p inside => within p (List.mem_cons_of_mem _ inside)⟩

/-- What holds of the separator and of the parts holds of what is joined. -/
theorem forall_mem_joinWith {lead : List Char} {parts : List (List Char)} {p : Char → Prop}
    (between : ∀ c ∈ lead, p c) (within : ∀ part ∈ parts, ∀ c ∈ part, p c) :
    ∀ c ∈ joinWith lead parts, p c := by
  have letters : joinWith lead parts ⊆ lead ++ parts.flatten :=
    joinWith_subset (List.subset_append_left _ _) fun part member d inside =>
      List.mem_append_right _ (List.mem_flatten_of_mem member inside)
  intro c inside
  rcases List.mem_append.1 (letters inside) with joint | part
  · exact between c joint
  · obtain ⟨part, member, inside⟩ := List.mem_flatten.1 part
    exact within part member c inside

theorem not_mem_joinWith {lead : List Char} {parts : List (List Char)} {c : Char}
    (between : c ∉ lead) (free : ∀ part ∈ parts, c ∉ part) : c ∉ joinWith lead parts := by
  have differ : ∀ d ∈ joinWith lead parts, d ≠ c :=
    forall_mem_joinWith (fun _ inside same => between (same ▸ inside))
      fun part member _ inside same => free part member (same ▸ inside)
  exact fun inside => differ c inside rfl

/-- Parts that are not empty are no more than the characters of what is joined. -/
theorem length_le_joinWith {lead : List Char} {parts : List (List Char)}
    (nonempty : ∀ part ∈ parts, part ≠ []) : parts.length ≤ (joinWith lead parts).length := by
  induction parts with
  | nil => exact Nat.zero_le _
  | cons part others ih =>
      obtain ⟨here, later⟩ := List.forall_mem_cons.1 nonempty
      have one : 0 < part.length := List.length_pos_iff.2 here
      cases others with
      | nil => exact one
      | cons next rest =>
          have behind := ih later
          rw [joinWith_cons lead part (List.cons_ne_nil next rest), List.length_append,
            List.length_append, List.length_cons]
          omega

/-! ## Blanks -/

/-- A text without blanks. -/
def Solid (text : List Char) : Prop :=
  ∀ c ∈ text, isBlank c = false

theorem Solid.subset {text letters : List Char} (solid : Solid letters) (within : text ⊆ letters) :
    Solid text :=
  fun c member => solid c (within member)

/-- A text that does not begin with a blank. -/
def StartsSolid (text : List Char) : Prop :=
  ∀ c ∈ text.head?, isBlank c = false

theorem Solid.startsSolid {text : List Char} (solid : Solid text) : StartsSolid text :=
  fun c first => solid c (List.mem_of_mem_head? first)

theorem startsSolid_trimStart (text : List Char) : StartsSolid (trimStart text) := by
  intro c first
  rw [trimStart] at first
  simpa [Option.mem_def.1 first] using List.head?_dropWhile_not isBlank text

theorem trimStart_of_startsSolid {text : List Char} (begun : StartsSolid text) :
    trimStart text = text := by
  cases text with
  | nil => rfl
  | cons c rest => exact trimStart_cons (begun c rfl)

/-- A text that does not end in a blank. -/
def EndsSolid (text : List Char) : Prop :=
  ∀ c ∈ text.getLast?, isBlank c = false

theorem EndsSolid.of_append (front : List Char) {rest : List Char}
    (ended : EndsSolid (front ++ rest)) : EndsSolid rest := by
  intro c last
  refine ended c ?_
  rw [Option.mem_def, List.getLast?_append, Option.mem_def.1 last, Option.some_or]

theorem EndsSolid.append (front : List Char) {rest : List Char} (ended : EndsSolid rest)
    (nonempty : rest ≠ []) : EndsSolid (front ++ rest) := by
  have same : (front ++ rest).getLast? = rest.getLast? := by
    rw [List.getLast?_append, List.getLast?_eq_some_getLast nonempty, Option.some_or]
  intro c last
  exact ended c (same ▸ last)

theorem Solid.endsSolid {text : List Char} (solid : Solid text) : EndsSolid text :=
  fun c last => solid c (List.mem_of_getLast? last)

theorem endsSolid_trimEnd (text : List Char) : EndsSolid (trimEnd text) := by
  intro c last
  rw [trimEnd, List.getLast?_reverse] at last
  simpa [Option.mem_def.1 last] using List.head?_dropWhile_not isBlank text.reverse

theorem endsSolid_trim (text : List Char) : EndsSolid (trim text) :=
  endsSolid_trimEnd (trimStart text)

theorem trimEnd_of_endsSolid {text : List Char} (ended : EndsSolid text) : trimEnd text = text := by
  rcases List.eq_nil_or_concat text with rfl | ⟨front, c, rfl⟩
  · rfl
  · rw [List.concat_eq_append] at ended ⊢
    exact trimEnd_concat (ended c List.getLast?_concat)

theorem trimEnd_eq_self_iff {text : List Char} : trimEnd text = text ↔ EndsSolid text :=
  ⟨fun kept => kept ▸ endsSolid_trimEnd text, trimEnd_of_endsSolid⟩

theorem exists_eq_trimStart (text : List Char) :
    ∃ front, text = front ++ trimStart text ∧ ∀ c ∈ front, isBlank c = true :=
  ⟨text.takeWhile isBlank, List.takeWhile_append_dropWhile.symm,
    List.all_eq_true.1 List.all_takeWhile⟩

theorem exists_eq_trimEnd (text : List Char) :
    ∃ back, text = trimEnd text ++ back ∧ ∀ c ∈ back, isBlank c = true := by
  obtain ⟨front, parts, blank⟩ := exists_eq_trimStart text.reverse
  refine ⟨front.reverse, ?_, fun c member => blank c (List.mem_reverse.1 member)⟩
  have mirrored := congrArg List.reverse parts
  rw [List.reverse_append, List.reverse_reverse] at mirrored
  exact mirrored

theorem exists_eq_trim (text : List Char) :
    ∃ front back, text = front ++ trim text ++ back ∧ (∀ c ∈ front, isBlank c = true) ∧
      ∀ c ∈ back, isBlank c = true := by
  obtain ⟨front, before, blankFront⟩ := exists_eq_trimStart text
  obtain ⟨back, behind, blankBack⟩ := exists_eq_trimEnd (trimStart text)
  refine ⟨front, back, ?_, blankFront, blankBack⟩
  rw [List.append_assoc, trim, ← behind]
  exact before

theorem startsSolid_trim (text : List Char) : StartsSolid (trim text) := by
  obtain ⟨back, parts, -⟩ := exists_eq_trimEnd (trimStart text)
  intro c first
  refine startsSolid_trimStart text c ?_
  have front : (trimEnd (trimStart text)).head? = some c := first
  rw [Option.mem_def, parts, List.head?_append, front, Option.some_or]

/-- Trimming leaves exactly those texts alone that have no blank at either end. -/
theorem trim_eq_self_iff {text : List Char} :
    trim text = text ↔ StartsSolid text ∧ EndsSolid text := by
  constructor
  · intro kept
    rw [← kept]
    exact ⟨startsSolid_trim text, endsSolid_trim text⟩
  · rintro ⟨begun, ended⟩
    rw [trim, trimStart_of_startsSolid begun, trimEnd_of_endsSolid ended]

theorem trimStart_of_solid {text : List Char} (solid : Solid text) : trimStart text = text :=
  trimStart_of_startsSolid solid.startsSolid

theorem trim_of_solid {text : List Char} (solid : Solid text) : trim text = text :=
  trim_eq_self_iff.2 ⟨solid.startsSolid, solid.endsSolid⟩

/-- What stands behind a character that is not blank is trimmed on its own. -/
theorem trimEnd_append_cons {c : Char} (solid : isBlank c = false) (front rest : List Char) :
    trimEnd (front ++ c :: rest) = front ++ c :: trimEnd rest := by
  have back : (front ++ c :: rest).reverse = rest.reverse ++ c :: front.reverse := by simp
  have stops : (c :: front.reverse).dropWhile isBlank = c :: front.reverse := trimStart_cons solid
  unfold trimEnd
  rw [back, List.dropWhile_append, stops]
  split
  · rename_i blank
    simp [List.isEmpty_iff.1 blank]
  · simp

/-- A text that begins with some that has no blanks is trimmed behind only. -/
theorem trim_append_of_solid {front : List Char} (solid : Solid front) (nonempty : front ≠ [])
    (rest : List Char) : trim (front ++ rest) = trimEnd (front ++ rest) := by
  obtain ⟨c, others, rfl⟩ := List.exists_cons_of_ne_nil nonempty
  rw [trim, List.cons_append, trimStart_cons (solid c List.mem_cons_self)]

theorem trimStart_append {blanks : List Char} (blank : ∀ c ∈ blanks, isBlank c = true)
    (rest : List Char) : trimStart (blanks ++ rest) = trimStart rest :=
  List.dropWhile_append_of_pos blank

theorem wordsFrom_append {part : List Char} (solid : Solid part) (word rest : List Char) :
    wordsFrom word (part ++ rest) = wordsFrom (part.reverse ++ word) rest := by
  induction part generalizing word with
  | nil => rfl
  | cons c part ih =>
      have here : isBlank c = false := solid c List.mem_cons_self
      rw [List.cons_append, wordsFrom, here, if_neg Bool.false_ne_true,
        ih fun d inside => solid d (List.mem_cons_of_mem c inside)]
      simp

/-- Parts without blanks are the words of the text they are joined to by a blank. -/
theorem words_joinWith (blank : isBlank separator) {parts : List (List Char)}
    (solid : ∀ part ∈ parts, part ≠ [] ∧ Solid part) :
    words (joinWith [separator] parts) = parts := by
  unfold words
  induction parts with
  | nil => rfl
  | cons part others ih =>
      obtain ⟨nonempty, here⟩ := solid part List.mem_cons_self
      have begun : part.reverse.isEmpty = false := by simpa using nonempty
      cases others with
      | nil =>
          have ended := wordsFrom_append here [] []
          rw [List.append_nil, List.append_nil] at ended
          rw [joinWith, ended, wordsFrom, begun, if_neg Bool.false_ne_true, List.reverse_reverse]
      | cons next rest =>
          rw [joinWith_cons _ part (List.cons_ne_nil next rest), List.append_assoc,
            List.singleton_append, wordsFrom_append here, List.append_nil, wordsFrom, if_pos blank,
            begun, if_neg Bool.false_ne_true, List.reverse_reverse,
            ih fun p inside => solid p (List.mem_cons_of_mem _ inside)]

end DialSelect.Text
