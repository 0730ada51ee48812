/-
# DialSelect.Proofs.Documents -- a document is read as it was written

A list of texts is written as an array of quoted texts, separated by commas.  A document
knows the same notation: every escape of a quoted text is one of a document's, with the
same meaning, and the delete character alone may stand in a quoted text but not in a
document.  So a quoted text without it is read back character by character
(`Toml.basicText_quoteChar`, `Toml.text?_quote`), and a list of such texts is read back as
the array of these texts (`Toml.value?_renderList`).

A line is a header or an assignment.  Its name is read up to the first character that
needs quotes (`Toml.path?_bare`), and then the line is read for what it says
(`Toml.statement?_header`, `Toml.statement?_assign`).
-/
import DialSelect.Proofs.Fields
import DialSelect.Proofs.Numerals
import DialSelect.Selection
import DialSelect.Toml.Document

namespace DialSelect.Toml

set_option autoImplicit false

/-! ## Texts -/

/-- A text that can stand in a document as it is quoted. -/
def Quotable (text : List Char) : Prop :=
  ∀ c ∈ text, c ≠ '\x7F'

theorem charOf?_toNat (c : Char) : charOf? c.toNat = some c := by
  have valid : c.toNat.isValidChar := c.valid
  rw [charOf?, if_pos valid, Char.ofNat_toNat]

theorem basicText_hex {left value d : Nat} (small : d < 16) (more : 1 < left) (rest : List Char) :
    basicText (.hex left value) (d.digitChar :: rest) =
      basicText (.hex (left - 1) (value * 16 + d)) rest := by
  rw [basicText, if_neg nofun, Escape.step, Numeral.hexDigit?_digitChar d small]
  dsimp only
  rw [if_neg (Nat.not_le_of_gt more)]
  rfl

theorem basicText_lastHex {value d : Nat} {c : Char} (small : d < 16)
    (code : value * 16 + d = c.toNat) (rest : List Char) :
    basicText (.hex 1 value) (d.digitChar :: rest) = prepend c (basicText .closed rest) := by
  rw [basicText, if_neg nofun, Escape.step, Numeral.hexDigit?_digitChar d small]
  dsimp only
  rw [if_pos (Nat.le_refl 1), code, charOf?_toNat]
  rfl

/-- What a character is quoted as is read as that character. -/
theorem basicText_quoteChar {c : Char} (allowed : c ≠ '\x7F') (rest : List Char) :
    basicText .closed (Text.quoteChar c ++ rest) = prepend c (basicText .closed rest) := by
  unfold Text.quoteChar
  repeat' split
  any_goals
    subst c
    rfl
  · rename_i control
    have digits : basicText .closed (['\\', 'u', '0', '0', Text.hexDigit (c.toNat / 16),
        Text.hexDigit (c.toNat % 16)] ++ rest) =
          basicText (.hex 2 0) ((c.toNat / 16 % 16).digitChar ::
            (c.toNat % 16 % 16).digitChar :: rest) := rfl
    have code : (0 * 16 + c.toNat / 16 % 16) * 16 + c.toNat % 16 % 16 = c.toNat := by omega
    have high : c.toNat / 16 % 16 < 16 := Nat.mod_lt _ (by decide)
    have low : c.toNat % 16 % 16 < 16 := Nat.mod_lt _ (by decide)
    rw [digits, basicText_hex high (by decide), basicText_lastHex low code]
  · rename_i noQuote noSlash _ _ _ _ _ printable
    have inText : isTextChar c = true := by
      have noDelete : c.toNat ≠ 0x7F := fun same => allowed (Char.toNat_inj.1 same)
      simp [isTextChar, Nat.le_of_not_lt printable, noDelete]
    rw [List.singleton_append, basicText, if_pos rfl, if_neg noQuote, if_neg noSlash, inText]
    rfl

theorem basicText_flatMap_quoteChar {text : List Char} (allowed : Quotable text)
    (rest : List Char) :
    basicText .closed (text.flatMap Text.quoteChar ++ '"' :: rest) = some (text, rest) := by
  induction text with
  | nil => rfl
  | cons c others ih =>
      obtain ⟨here, later⟩ := List.forall_mem_cons.1 allowed
      rw [List.flatMap_cons, List.append_assoc, basicText_quoteChar here, ih later]
      rfl

/-- A quoted character does not begin with a quote. -/
theorem quoteChar_eq_cons (c : Char) : ∃ d others, Text.quoteChar c = d :: others ∧ d ≠ '"' := by
  unfold Text.quoteChar
  repeat' split
  all_goals refine ⟨_, _, rfl, ?_⟩
  any_goals decide
  assumption

/-- A quoted text is read back.  Behind it stands no other quote, which would make an empty
text the beginning of a text on several lines. -/
theorem text?_quote {text : List Char} (allowed : Quotable text) {rest : List Char}
    (closed : rest.head? ≠ some '"') : text? (Text.quote text ++ rest) = some (text, rest) := by
  have read : quotedText? (Text.quote text ++ rest) = some (text, rest) := by
    rw [Text.quote, List.append_assoc]
    exact basicText_flatMap_quoteChar allowed rest
  rw [← read]
  unfold text?
  split
  · rename_i more same
    cases text with
    | nil =>
        obtain rfl : rest = '"' :: more := (List.cons.inj (List.cons.inj same).2).2
        exact absurd rfl closed
    | cons c others =>
        obtain ⟨d, behind, letters, noQuote⟩ := quoteChar_eq_cons c
        rw [Text.quote, List.flatMap_cons, letters] at same
        exact absurd (List.cons.inj (List.cons.inj same).2).1 noQuote
  · rename_i more same
    exact absurd (List.cons.inj same).1 (by decide)
  · rfl

/-! ## Arrays -/

theorem skipGap_quote (text rest : List Char) :
    skipGap false (Text.quote text ++ rest) = some (Text.quote text ++ rest) := rfl

theorem value?_quote (depth : Nat) {text : List Char} (allowed : Quotable text) {rest : List Char}
    (closed : rest.head? ≠ some '"') :
    value? depth (Text.quote text ++ rest) = some (.text (String.ofList text), rest) := by
  have plain : value? depth (Text.quote text ++ rest) =
      (text? (Text.quote text ++ rest)).map fun read => (.text (String.ofList read.1), read.2) := by
    cases depth <;> rfl
  rw [plain, text?_quote allowed closed]
  rfl

section Items

variable {item? : List Char → Option (Value × List Char)} {fuel : Nat} {item : Value}

theorem items?_last {text rest : List Char}
    (read : item? (Text.quote text ++ ']' :: rest) = some (item, ']' :: rest)) :
    items? item? (fuel + 1) (Text.quote text ++ ']' :: rest) = some ([item], rest) := by
  rw [items?, skipGap_quote]
  change (item? (Text.quote text ++ ']' :: rest)).bind _ = _
  rw [read]
  rfl

theorem items?_next {text rest after : List Char} {items : List Value}
    (read : item? (Text.quote text ++ ',' :: rest) = some (item, ',' :: rest))
    (others : items? item? fuel rest = some (items, after)) :
    items? item? (fuel + 1) (Text.quote text ++ ',' :: rest) = some (item :: items, after) := by
  rw [items?, skipGap_quote]
  change (item? (Text.quote text ++ ',' :: rest)).bind _ = _
  rw [read]
  change (items? item? fuel rest).bind _ = _
  rw [others]
  rfl

end Items

theorem items?_joinWith (depth : Nat) {texts : List String}
    (allowed : ∀ text ∈ texts, Quotable text.toList) {fuel : Nat} (enough : texts.length < fuel)
    (rest : List Char) :
    items? (value? depth) fuel
        (Text.joinWith [','] (texts.map fun text => Text.quote text.toList) ++ ']' :: rest) =
      some (texts.map .text, rest) := by
  induction texts generalizing fuel with
  | nil =>
      obtain ⟨fuel, rfl⟩ : ∃ n, fuel = n + 1 := ⟨fuel - 1, by omega⟩
      rfl
  | cons text others ih =>
      obtain ⟨fuel, rfl⟩ : ∃ n, fuel = n + 1 := ⟨fuel - 1, by omega⟩
      obtain ⟨here, later⟩ := List.forall_mem_cons.1 allowed
      have read (rest : List Char) (closed : rest.head? ≠ some '"') :
          value? depth (Text.quote text.toList ++ rest) = some (.text text, rest) := by
        rw [value?_quote depth here closed, String.ofList_toList]
      cases others with
      | nil => exact items?_last (read (']' :: rest) (by simp))
      | cons next more =>
          have short : (next :: more).length < fuel := Nat.lt_of_succ_lt_succ enough
          have behind : (next :: more).map (fun text => Text.quote text.toList) ≠ [] :=
            List.cons_ne_nil _ _
          rw [List.map_cons, Text.joinWith_cons _ _ behind, List.append_assoc, List.append_assoc,
            List.singleton_append]
          exact items?_next (read (',' :: _) (by simp)) (ih later short)

theorem value?_renderList (depth : Nat) {texts : List String}
    (allowed : ∀ text ∈ texts, Quotable text.toList) (rest : List Char) :
    value? (depth + 1) (Selection.renderList texts ++ rest) =
      some (.array (texts.map .text), rest) := by
  let items := Text.joinWith [','] (texts.map fun text => Text.quote text.toList)
  have opened : value? (depth + 1) (Selection.renderList texts ++ rest) =
      (items? (value? depth) ((items ++ [']'] ++ rest).length + 1) (items ++ [']'] ++ rest)).map
        fun read => (.array read.1, read.2) := rfl
  have short : texts.length ≤ items.length := by
    rw [← List.length_map fun text : String => Text.quote text.toList]
    refine Text.length_le_joinWith fun part member => ?_
    obtain ⟨text, -, rfl⟩ := List.mem_map.1 member
    exact List.cons_ne_nil _ _
  have enough : texts.length < (items ++ ']' :: rest).length + 1 := by
    rw [List.length_append]
    omega
  rw [opened, List.append_assoc, List.singleton_append, items?_joinWith depth allowed enough]
  rfl

theorem texts?_array (texts : List String) :
    (Value.array (texts.map .text)).texts? = some texts := by
  unfold Value.texts?
  dsimp only
  induction texts with
  | nil => rfl
  | cons text others ih =>
      rw [List.map_cons, List.mapM_cons, ih]
      rfl

/-! ## Lines -/

/-- A name that needs no quotes. -/
def BareName (name : List Char) : Prop :=
  name ≠ [] ∧ name.all isBareChar = true

theorem BareName.of_mem {name : List Char} (bare : BareName name) :
    ∀ c ∈ name, isBareChar c = true :=
  List.all_eq_true.1 bare.2

theorem BareName.exists_cons {name : List Char} (bare : BareName name) :
    ∃ c rest, name = c :: rest ∧ isBareChar c = true := by
  obtain ⟨c, rest, rfl⟩ := List.exists_cons_of_ne_nil bare.1
  exact ⟨c, rest, rfl, bare.of_mem c List.mem_cons_self⟩

theorem key?_bare {name : List Char} (bare : BareName name) {c : Char} (ended : isBareChar c = false)
    (rest : List Char) : key? (name ++ c :: rest) = some (String.ofList name, c :: rest) := by
  have unquoted : quotedText? (name ++ c :: rest) = none := by
    obtain ⟨d, others, rfl, first⟩ := bare.exists_cons
    unfold quotedText?
    split
    · rename_i same
      cases (List.cons.inj same).1
      exact absurd first (by decide)
    · rename_i same
      cases (List.cons.inj same).1
      exact absurd first (by decide)
    · rfl
  have taken : (name ++ c :: rest).takeWhile isBareChar = name := by
    rw [List.takeWhile_append_of_pos bare.of_mem, List.takeWhile_cons_of_neg (by simp [ended]),
      List.append_nil]
  have left : (name ++ c :: rest).dropWhile isBareChar = c :: rest := by
    rw [List.dropWhile_append_of_pos bare.of_mem, List.dropWhile_cons_of_neg (by simp [ended])]
  have nonempty : name.isEmpty = false := by simpa using bare.1
  unfold key?
  rw [unquoted, taken, left]
  dsimp only
  rw [nonempty, if_neg Bool.false_ne_true]

/-- A name without quotes that no dot follows is a path of its own. -/
theorem path?_bare (parts : Nat) {name : List Char} (bare : BareName name) {c : Char}
    (ended : isBareChar c = false) {rest : List Char}
    (single : (skipSpaces (c :: rest)).head? ≠ some '.') :
    path? (parts + 1) (name ++ c :: rest) =
      some ([String.ofList name], skipSpaces (c :: rest)) := by
  rw [path?, key?_bare bare ended]
  dsimp only [bind, Option.bind]
  split
  · rename_i same
    rw [same] at single
    exact absurd rfl single
  · rfl

theorem skipSpaces_cons {c : Char} (other : isSpace c = false) (rest : List Char) :
    skipSpaces (c :: rest) = c :: rest :=
  List.dropWhile_cons_of_neg (by simp [other])

theorem not_isSpace_of_isBareChar {c : Char} (bare : isBareChar c = true) : isSpace c = false := by
  refine Bool.eq_false_iff.2 fun space => ?_
  have blank : c = ' ' ∨ c = '\t' := by simpa [isSpace] using space
  rcases blank with rfl | rfl <;> exact absurd bare (by decide)

theorem statement?_header {name : List Char} (bare : BareName name) (rest : List Char) :
    statement? ('[' :: name ++ ']' :: '\n' :: rest) =
      some (.table [String.ofList name], '\n' :: rest) := by
  obtain ⟨c, others, rfl, first⟩ := bare.exists_cons
  have start : c ≠ '[' := by
    rintro rfl
    exact absurd first (by decide)
  have unspaced : skipSpaces (c :: others ++ ']' :: '\n' :: rest) =
      c :: others ++ ']' :: '\n' :: rest :=
    skipSpaces_cons (not_isSpace_of_isBareChar first) _
  have path : path? maxParts (c :: others ++ ']' :: '\n' :: rest) =
      some ([String.ofList (c :: others)], ']' :: '\n' :: rest) :=
    path?_bare 79 bare rfl nofun
  have header : header? [']'] (c :: others ++ ']' :: '\n' :: rest) =
      some ([String.ofList (c :: others)], '\n' :: rest) := by
    rw [header?, unspaced, path]
    rfl
  unfold statement?
  split
  · rename_i same
    exact absurd (List.cons.inj (List.cons.inj same).2).1 start
  · rename_i same
    obtain ⟨-, rfl⟩ := List.cons.inj same
    change (header? [']'] (c :: others ++ ']' :: '\n' :: rest)).bind _ = _
    rw [header]
    rfl
  · rename_i other
    exact absurd rfl (other _)

theorem statement?_assign {name : List Char} (bare : BareName name) {text rest : List Char}
    {value : Value} (unspaced : skipSpaces (' ' :: text) = text)
    (read : value? maxDepth text = some (value, '\n' :: rest)) :
    statement? (name ++ ' ' :: '=' :: ' ' :: text) =
      some (.assign [String.ofList name] value, '\n' :: rest) := by
  have path : path? maxParts (name ++ ' ' :: '=' :: ' ' :: text) =
      some ([String.ofList name], '=' :: ' ' :: text) :=
    path?_bare 79 bare rfl nofun
  obtain ⟨c, others, rfl, first⟩ := bare.exists_cons
  have noBracket : c ≠ '[' := by
    rintro rfl
    exact absurd first (by decide)
  unfold statement?
  split
  · rename_i same
    exact absurd (List.cons.inj same).1 noBracket
  · rename_i same
    exact absurd (List.cons.inj same).1 noBracket
  · rw [path]
    change (value? maxDepth (skipSpaces (' ' :: text))).bind _ = _
    rw [unspaced, read]
    rfl

end DialSelect.Toml
