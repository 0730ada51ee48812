/-
# DialSelect.Proofs.Tokens -- the words of a text, told without reading it

The words of a text are found by one scan that carries the word begun.  `Text.Tokens` says
what they are without a scan: blanks, a run of other characters that goes on until a blank or
the end of the text, and so on to the end.  Every text is made so in one way only, and the
scan finds it (`Text.words_eq_iff`).
-/
import DialSelect.Proofs.Fields

namespace DialSelect.Text

set_option autoImplicit false

def Blank (text : List Char) : Prop :=
  ∀ c ∈ text, isBlank c = true

/-- A text that is empty or begins with a blank: a word in front of it has ended. -/
def Ends (text : List Char) : Prop :=
  ∀ c ∈ text.head?, isBlank c = true

/-- These are the tokens of a text, in order: the runs without blanks that blanks, or the ends
of the text, enclose. -/
inductive Tokens : List Char → List (List Char) → Prop where
  | none {gap : List Char} (blank : Blank gap) : Tokens gap []
  | next {gap token rest : List Char} {tokens : List (List Char)} (blank : Blank gap)
      (nonempty : token ≠ []) (solid : Solid token) (ends : Ends rest)
      (behind : Tokens rest tokens) : Tokens (gap ++ (token ++ rest)) (token :: tokens)

theorem Blank.cons {c : Char} {text : List Char} (here : isBlank c = true) (blank : Blank text) :
    Blank (c :: text) :=
  List.forall_mem_cons.2 ⟨here, blank⟩

theorem Blank.nil : Blank [] := List.forall_mem_nil _

theorem Ends.nil : Ends [] := nofun

theorem Ends.cons {c : Char} (here : isBlank c = true) (text : List Char) : Ends (c :: text) := by
  intro d first
  obtain rfl := Option.some.inj first
  exact here

theorem Tokens.first {token rest : List Char} {tokens : List (List Char)} (nonempty : token ≠ [])
    (solid : Solid token) (ends : Ends rest) (behind : Tokens rest tokens) :
    Tokens (token ++ rest) (token :: tokens) :=
  .next .nil nonempty solid ends behind

/-- A blank in front belongs to no token. -/
theorem Tokens.cons_blank {c : Char} {text : List Char} {tokens : List (List Char)}
    (here : isBlank c = true) (cut : Tokens text tokens) : Tokens (c :: text) tokens := by
  cases cut with
  | none blank => exact .none (blank.cons here)
  | next blank nonempty solid ends behind =>
      exact .next (blank.cons here) nonempty solid ends behind

/-! ## The scan finds the tokens -/

/-- Whatever word was begun, the scan finds the tokens of that word and the text behind it. -/
theorem tokens_wordsFrom {word : List Char} (begun : Solid word) (text : List Char) :
    Tokens (word.reverse ++ text) (wordsFrom word text) := by
  have turned {word : List Char} (begun : Solid word) : Solid word.reverse :=
    begun.subset fun c member => List.mem_reverse.1 member
  induction text generalizing word with
  | nil =>
      cases word with
      | nil => exact .none .nil
      | cons a as =>
          have nonempty : (a :: as).reverse ≠ [] := by simp
          exact .first nonempty (turned begun) .nil (.none .nil)
  | cons c rest ih =>
      rw [wordsFrom]
      by_cases here : isBlank c = true
      · have empty : Solid [] := List.forall_mem_nil _
        have behind : Tokens (c :: rest) (wordsFrom [] rest) := (ih empty).cons_blank here
        rw [if_pos here]
        cases word with
        | nil => exact behind
        | cons a as =>
            have nonempty : (a :: as).reverse ≠ [] := by simp
            exact .first nonempty (turned begun) (.cons here rest) behind
      · have longer : Solid (c :: word) :=
          List.forall_mem_cons.2 ⟨Bool.eq_false_iff.2 here, begun⟩
        rw [if_neg here]
        simpa using ih longer

theorem tokens_words (text : List Char) : Tokens text (words text) := by
  have empty : Solid [] := List.forall_mem_nil _
  exact tokens_wordsFrom empty text

/-! ## Nothing else is cut so -/

theorem wordsFrom_blank {gap : List Char} (blank : Blank gap) (rest : List Char) :
    wordsFrom [] (gap ++ rest) = wordsFrom [] rest := by
  induction gap with
  | nil => rfl
  | cons c gap ih =>
      obtain ⟨here, later⟩ := List.forall_mem_cons.1 blank
      rw [List.cons_append, wordsFrom, if_pos here]
      exact ih later

/-- A word ends where the text behind it does not go on with it. -/
theorem wordsFrom_of_ends {word rest : List Char} (nonempty : word ≠ []) (ends : Ends rest) :
    wordsFrom word rest = word.reverse :: wordsFrom [] rest := by
  have begun : word.isEmpty = false := by simpa using nonempty
  cases rest with
  | nil =>
      rw [wordsFrom, begun]
      rfl
  | cons c rest =>
      have here : isBlank c = true := ends c rfl
      simp only [wordsFrom, here, begun, if_true, Bool.false_eq_true, if_false, List.isEmpty_nil]

theorem words_of_tokens {text : List Char} {tokens : List (List Char)}
    (cut : Tokens text tokens) : words text = tokens := by
  induction cut with
  | @none gap blank =>
      have scanned := wordsFrom_blank blank []
      rw [List.append_nil] at scanned
      exact scanned
  | @next gap token rest tokens blank nonempty solid ends behind ih =>
      have turned : token.reverse ≠ [] := by simpa using nonempty
      rw [words, wordsFrom_blank blank, wordsFrom_append solid, List.append_nil,
        wordsFrom_of_ends turned ends, List.reverse_reverse]
      exact congrArg (token :: ·) ih

/-- **The words of a text are its tokens**, and a text has no other tokens. -/
theorem words_eq_iff {text : List Char} {tokens : List (List Char)} :
    words text = tokens ↔ Tokens text tokens :=
  ⟨fun same => same ▸ tokens_words text, words_of_tokens⟩

end DialSelect.Text
