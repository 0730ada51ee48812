/-
# DialSelect.Text.Blank -- white space, trimming and words

A character is blank when it has the Unicode property `White_Space`: twenty-five
code points, of which six are ASCII.  Everything the library reads from a person
-- an address, a network, a policy name -- is trimmed by this property, and the
candidates on standard input are the blank-separated words of the text.

The zero-width space, the byte order mark and the information separators below
U+0020 are not blank.
-/

namespace DialSelect.Text

set_option autoImplicit false

/-- The code points with the property `White_Space`, as closed intervals. -/
def blankRanges : List (Nat × Nat) :=
  [(0x09, 0x0D), (0x20, 0x20), (0x85, 0x85), (0xA0, 0xA0), (0x1680, 0x1680),
    (0x2000, 0x200A), (0x2028, 0x2029), (0x202F, 0x202F), (0x205F, 0x205F), (0x3000, 0x3000)]

/-- Membership of a code point in a list of closed intervals. -/
def inRanges (ranges : List (Nat × Nat)) (code : Nat) : Bool :=
  ranges.any fun range => range.1 ≤ code && code ≤ range.2

/-- A character is blank when it has the property `White_Space`. -/
def isBlank (c : Char) : Bool :=
  inRanges blankRanges c.toNat

/-! ## Trimming -/

def trimStart (text : List Char) : List Char :=
  text.dropWhile isBlank

def trimEnd (text : List Char) : List Char :=
  (text.reverse.dropWhile isBlank).reverse

/-- The text without its leading and trailing blanks. -/
def trim (text : List Char) : List Char :=
  trimEnd (trimStart text)

/-! ## Words -/

/-- The words of a text whose current word, read so far, is `word` in reverse. -/
def wordsFrom (word : List Char) : List Char → List (List Char)
  | [] => if word.isEmpty then [] else [word.reverse]
  | c :: rest =>
      if isBlank c then
        if word.isEmpty then wordsFrom [] rest else word.reverse :: wordsFrom [] rest
      else wordsFrom (c :: word) rest

/-- The maximal blank-free runs of a text, in order. -/
def words (text : List Char) : List (List Char) :=
  wordsFrom [] text

/-! ## Small laws -/

/-- A text whose first character is not blank keeps it when trimmed in front. -/
theorem trimStart_cons {c : Char} {rest : List Char} (solid : isBlank c = false) :
    trimStart (c :: rest) = c :: rest := by
  simp [trimStart, solid]

theorem trimEnd_concat {c : Char} {front : List Char} (solid : isBlank c = false) :
    trimEnd (front ++ [c]) = front ++ [c] := by
  simp [trimEnd, solid]

/-- Every word is non-empty and blank-free, whatever word was begun before. -/
theorem solid_of_mem_wordsFrom {text word w : List Char}
    (begun : ∀ c ∈ word, isBlank c = false) (member : w ∈ wordsFrom word text) :
    w ≠ [] ∧ ∀ c ∈ w, isBlank c = false := by
  induction text generalizing word with
  | nil =>
      cases word with
      | nil => simp [wordsFrom] at member
      | cons a as =>
          simp only [wordsFrom, List.isEmpty_cons, Bool.false_eq_true, if_false,
            List.mem_singleton] at member
          subst member
          exact ⟨by simp, fun c inside => begun c (List.mem_reverse.1 inside)⟩
  | cons c rest ih =>
      by_cases blank : isBlank c = true
      · cases word with
        | nil =>
            simp only [wordsFrom, blank, if_true, List.isEmpty_nil] at member
            exact ih (by simp) member
        | cons a as =>
            simp only [wordsFrom, blank, if_true, List.isEmpty_cons, Bool.false_eq_true,
              if_false, List.mem_cons] at member
            rcases member with rfl | later
            · exact ⟨by simp, fun d inside => begun d (List.mem_reverse.1 inside)⟩
            · exact ih (by simp) later
      · simp only [wordsFrom, blank, if_false, Bool.false_eq_true] at member
        refine ih (fun d inside => ?_) member
        rcases List.mem_cons.1 inside with rfl | before
        · simpa using blank
        · exact begun d before

theorem solid_of_mem_words {text w : List Char} (member : w ∈ words text) :
    w ≠ [] ∧ ∀ c ∈ w, isBlank c = false :=
  solid_of_mem_wordsFrom (by simp) member

end DialSelect.Text
