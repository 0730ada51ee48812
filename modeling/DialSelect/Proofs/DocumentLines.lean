/-
# DialSelect.Proofs.DocumentLines -- a document is read line by line

A line is silent, if it is empty or a comment, or it states something.  What a line states is
read whatever stands behind it (`Toml.States`), and a silent line is skipped
(`Toml.statementsFrom?_silent`).  So a document is read as what its lines say, one after the
other (`Toml.Say`, `Toml.statements?_of_say`).

No carriage return stands in such lines, so none stands alone.
-/
import DialSelect.Proofs.Documents

namespace DialSelect.Toml

set_option autoImplicit false

/-! ## Silent lines -/

/-- A line that says nothing: it is empty or a comment. -/
def isSilent : List Char → Bool
  | [] => true
  | c :: text => c = '#' && text.all isTextChar

theorem isSilent_cons {c : Char} {text : List Char} :
    isSilent (c :: text) = true ↔ c = '#' ∧ text.all isTextChar = true := by
  simp [isSilent]

/-- A line that is given as a text is silent, if its characters are: the bytes that encode them
need not be decoded again. -/
theorem isSilent_ofList {line : List Char} (silent : isSilent line = true) :
    isSilent (String.ofList line).toList = true := by
  rw [String.toList_ofList]
  exact silent

/-- A comment goes on to the end of its line. -/
theorem skipGap_comment {text : List Char} (inText : text.all isTextChar = true)
    (rest : List Char) : skipGap true (text ++ '\n' :: rest) = skipGap false rest := by
  induction text with
  | nil => rfl
  | cons c others ih =>
      rw [List.all_cons, Bool.and_eq_true] at inText
      obtain ⟨here, later⟩ := inText
      have noBreak : c ≠ '\n' := by
        rintro rfl
        exact Bool.false_ne_true here
      rw [List.cons_append, skipGap, if_pos rfl, if_neg noBreak, here, Bool.or_true, if_pos rfl]
      exact ih later

theorem skipGap_silent {line : List Char} (silent : isSilent line = true) (rest : List Char) :
    skipGap false (line ++ '\n' :: rest) = skipGap false rest := by
  cases line with
  | nil => rfl
  | cons c text =>
      obtain ⟨rfl, inText⟩ := isSilent_cons.1 silent
      exact skipGap_comment inText rest

theorem return_not_mem_silent {line : List Char} (silent : isSilent line = true) :
    '\r' ∉ line := by
  cases line with
  | nil => exact List.not_mem_nil
  | cons c text =>
      obtain ⟨rfl, inText⟩ := isSilent_cons.1 silent
      intro member
      rcases List.mem_cons.1 member with same | inside
      · exact absurd same (by decide)
      · exact Bool.false_ne_true (List.all_eq_true.1 inText _ inside)

/-- Statements are read from where the next one begins. -/
theorem statementsFrom?_congr {text other : List Char}
    (same : skipGap false text = skipGap false other) (fuel : Nat) :
    statementsFrom? fuel text = statementsFrom? fuel other := by
  cases fuel with
  | zero => rfl
  | succ fuel => rw [statementsFrom?, statementsFrom?, same]

theorem statementsFrom?_silent {line : List Char} (silent : isSilent line = true) (fuel : Nat)
    (rest : List Char) :
    statementsFrom? fuel (line ++ '\n' :: rest) = statementsFrom? fuel rest :=
  statementsFrom?_congr (skipGap_silent silent rest) fuel

/-! ## Lines that state something -/

/-- A line is read as a statement, whatever stands behind it. -/
structure States (line : List Char) (statement : Statement) : Prop where
  begins (rest : List Char) : skipGap false (line ++ '\n' :: rest) = some (line ++ '\n' :: rest)
  read (rest : List Char) : statement? (line ++ '\n' :: rest) = some (statement, '\n' :: rest)
  returnless : '\r' ∉ line

/-- A name without quotes begins a statement. -/
theorem skipGap_bare {c : Char} (bare : isBareChar c = true) (rest : List Char) :
    skipGap false (c :: rest) = some (c :: rest) := by
  have noBreak : isBreak c = false := by
    refine Bool.eq_false_iff.2 fun broken => ?_
    have either : c = '\n' ∨ c = '\r' := by simpa [isBreak] using broken
    rcases either with rfl | rfl <;> exact absurd bare (by decide)
  have noComment : c ≠ '#' := by
    rintro rfl
    exact absurd bare (by decide)
  rw [skipGap, if_neg Bool.false_ne_true, noBreak, not_isSpace_of_isBareChar bare,
    if_neg (by decide), if_neg noComment]

theorem BareName.return_not_mem {name : List Char} (bare : BareName name) : '\r' ∉ name :=
  fun member => Bool.false_ne_true (bare.of_mem _ member)

theorem states_header {name : List Char} (bare : BareName name) :
    States ('[' :: name ++ [']']) (.table [String.ofList name]) where
  begins rest := rfl
  read rest := by
    rw [List.append_assoc]
    exact statement?_header bare rest
  returnless := by simp [bare.return_not_mem]

theorem states_assign {name text : List Char} {value : Value} (bare : BareName name)
    (unspaced : ∀ rest, skipSpaces (text ++ rest) = text ++ rest)
    (read : ∀ rest, value? maxDepth (text ++ '\n' :: rest) = some (value, '\n' :: rest))
    (returnless : '\r' ∉ text) :
    States (name ++ ' ' :: '=' :: ' ' :: text) (.assign [String.ofList name] value) where
  begins rest := by
    obtain ⟨c, others, rfl, first⟩ := bare.exists_cons
    exact skipGap_bare first _
  read rest := by
    rw [List.append_assoc]
    exact statement?_assign bare (unspaced _) (read rest)
  returnless := by simp [bare.return_not_mem, returnless]

theorem statementsFrom?_states {line : List Char} {statement : Statement}
    (states : States line statement) (fuel : Nat) (rest : List Char) :
    statementsFrom? (fuel + 1) (line ++ '\n' :: rest) =
      (statementsFrom? fuel rest).map (statement :: ·) := by
  have behind : statementsFrom? fuel ('\n' :: rest) = statementsFrom? fuel rest :=
    statementsFrom?_congr (by rfl) fuel
  obtain ⟨c, others, text⟩ : ∃ c others, line ++ '\n' :: rest = c :: others :=
    List.exists_cons_of_ne_nil (by simp)
  have begins := states.begins rest
  have read := states.read rest
  rw [text] at begins read ⊢
  rw [statementsFrom?, begins]
  show (statement? (c :: others)).bind _ = _
  rw [read]
  show (statementsFrom? fuel ('\n' :: rest)).bind _ = _
  rw [behind]
  cases statementsFrom? fuel rest <;> rfl

/-! ## Documents -/

/-- A text without carriage returns has no carriage return that stands alone. -/
theorem returnsPaired_of_free {text : List Char} (free : '\r' ∉ text) :
    returnsPaired text = true := by
  induction text with
  | nil => rfl
  | cons c rest ih =>
      obtain ⟨differ, free⟩ := List.ne_and_not_mem_of_not_mem_cons free
      rw [returnsPaired]
      · rw [ih free, Bool.and_true]
        exact decide_eq_true differ.symm
      · rintro _ rfl
        exact absurd rfl differ

/-- Lines say these statements, at most one in a line. -/
inductive Say : List (List Char) → List Statement → Prop where
  | nil : Say [] []
  | silent {line : List Char} {lines : List (List Char)} {statements : List Statement}
      (silent : isSilent line = true) (others : Say lines statements) :
      Say (line :: lines) statements
  | states {line : List Char} {lines : List (List Char)} {statement : Statement}
      {statements : List Statement} (states : States line statement)
      (others : Say lines statements) : Say (line :: lines) (statement :: statements)

/-- The text of some lines, each with a line feed. -/
def lineText (lines : List (List Char)) : List Char :=
  lines.flatMap fun line => line ++ ['\n']

theorem lineText_cons (line : List Char) (lines : List (List Char)) :
    lineText (line :: lines) = line ++ '\n' :: lineText lines := by
  simp [lineText]

section Say

variable {lines : List (List Char)} {statements : List Statement} (said : Say lines statements)

include said

theorem statementsFrom?_of_say {fuel : Nat} (enough : statements.length < fuel) :
    statementsFrom? fuel (lineText lines) = some statements := by
  induction said generalizing fuel with
  | nil =>
      obtain ⟨fuel, rfl⟩ : ∃ n, fuel = n + 1 := ⟨fuel - 1, by omega⟩
      rfl
  | silent silent others ih =>
      rw [lineText_cons, statementsFrom?_silent silent]
      exact ih enough
  | states states others ih =>
      obtain ⟨fuel, rfl⟩ : ∃ n, fuel = n + 1 := ⟨fuel - 1, by omega⟩
      rw [lineText_cons, statementsFrom?_states states, ih (Nat.lt_of_succ_lt_succ enough)]
      rfl

theorem Say.length_le : statements.length ≤ (lineText lines).length := by
  induction said with
  | nil => exact Nat.le_refl 0
  | silent _ _ ih | states _ _ ih =>
      simp only [lineText_cons, List.length_append, List.length_cons]
      omega

theorem Say.return_not_mem : '\r' ∉ lineText lines := by
  induction said with
  | nil => exact List.not_mem_nil
  | silent silent _ ih => simp [lineText_cons, return_not_mem_silent silent, ih]
  | states states _ ih => simp [lineText_cons, states.returnless, ih]

/-- A document without a mark in front is read as what its lines say. -/
theorem statements?_of_say (unmarked : Text.stripLead? ['\uFEFF'] (lineText lines) = none) :
    statements? (lineText lines) = some statements := by
  unfold statements?
  dsimp only
  rw [unmarked, Option.getD_none, returnsPaired_of_free said.return_not_mem, if_pos rfl]
  exact statementsFrom?_of_say said (Nat.lt_succ_of_le said.length_le)

end Say

end DialSelect.Toml
