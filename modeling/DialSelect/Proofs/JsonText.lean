/-
# DialSelect.Proofs.JsonText -- the JSON text of a selection says all about it

A way to write things is prefix-free when what was written can be split off the front of
any longer text (`Text.PrefixFree`).  A character is, as it is quoted: a backslash in front
tells an escape from a character that stands for itself, and an escape has a fixed length
(`Text.quoteChar_prefixFree`).  Items that are stay so one after the other, with an end mark
that none of them begins with (`Text.PrefixFree.sequence`); so a quoted text is, whatever
quotes, commas and brackets it holds, and so is an array of quoted texts.  A number is with
the comma behind it, for no comma is a digit.

An object is the sequence of its members, so the members of two selections with one JSON text
agree one after the other, and no two selections share a JSON text.  Control characters are
written as escapes, so the text is one line (`Selection.json_injective_on_one_line`).
-/
import DialSelect.Proofs.PolicyNames

namespace DialSelect

set_option autoImplicit false

/-! ## Texts that can be split off -/

namespace Text

variable {α β : Type} {write : α → List Char}

/-- What is written can be split off the front of any longer text. -/
def PrefixFree (write : α → List Char) : Prop :=
  ∀ (x y : α) (rest tail : List Char), write x ++ rest = write y ++ tail → x = y ∧ rest = tail

/-- Everything is written as something, and never with a mark at its front. -/
def NeverBegins (write : α → List Char) (mark : Char) : Prop :=
  ∀ x, ∃ c others, write x = c :: others ∧ c ≠ mark

theorem NeverBegins.ne {mark : Char} (apart : NeverBegins write mark) (x : α)
    (rest tail : List Char) : write x ++ rest ≠ mark :: tail := by
  obtain ⟨c, others, letters, other⟩ := apart x
  simp [letters, other]

/-- The parts behind the first one stand with the separator in front of each. -/
theorem joinWith_eq_flatMap (lead part : List Char) (others : List (List Char)) :
    joinWith lead (part :: others) = part ++ others.flatMap (lead ++ ·) := by
  induction others generalizing part with
  | nil => simp [joinWith]
  | cons next rest ih => simp [joinWith, ih next]

namespace PrefixFree

theorem injective (free : PrefixFree write) {x y : α} (same : write x = write y) : x = y :=
  (free x y [] [] (by rw [same])).1

/-- A reader that gives back what was written, and the rest of the text. -/
theorem of_reader (read : List Char → Option (α × List Char))
    (reads : ∀ x rest, read (write x ++ rest) = some (x, rest)) : PrefixFree write := by
  intro x y rest tail same
  have both := reads x rest
  rw [same, reads y tail] at both
  simpa [eq_comm] using both

theorem comp (free : PrefixFree write) {f : β → α} (injective : ∀ x y, f x = f y → x = y) :
    PrefixFree fun x => write (f x) := by
  intro x y rest tail same
  obtain ⟨inner, behind⟩ := free (f x) (f y) rest tail same
  exact ⟨injective x y inner, behind⟩

/-- What stands in front of everything that is written tells nothing apart. -/
theorem behind (free : PrefixFree write) (front : List Char) :
    PrefixFree fun x => front ++ write x := by
  intro x y rest tail same
  simp only [List.append_assoc, List.append_cancel_left_eq] at same
  exact free x y rest tail same

/-- Items one after the other, behind which stands a mark that no item begins with. -/
theorem sequence (free : PrefixFree write) {stop : Char} (apart : NeverBegins write stop) :
    PrefixFree fun xs : List α => xs.flatMap write ++ [stop] := by
  intro xs
  induction xs with
  | nil =>
      rintro (_ | ⟨y, ys⟩) rest tail same
      · simpa using same
      · simp only [List.flatMap_nil, List.flatMap_cons, List.append_assoc, List.nil_append,
          List.singleton_append] at same
        exact absurd same.symm (apart.ne y _ _)
  | cons x xs ih =>
      rintro (_ | ⟨y, ys⟩) rest tail same
      · simp only [List.flatMap_nil, List.flatMap_cons, List.append_assoc, List.nil_append,
          List.singleton_append] at same
        exact absurd same (apart.ne x _ _)
      · simp only [List.flatMap_cons, List.append_assoc] at same
        obtain ⟨rfl, behind⟩ := free x y _ _ same
        obtain ⟨rfl, last⟩ := ih ys rest tail (by simpa using behind)
        exact ⟨rfl, last⟩

/-- Items with a separator between any two, behind which stands a mark that neither an item
nor the separator begins with. -/
theorem joined (free : PrefixFree write) {separator stop : Char} (differ : separator ≠ stop)
    (apart : NeverBegins write stop) :
    PrefixFree fun xs : List α => joinWith [separator] (xs.map write) ++ [stop] := by
  -- Behind the first item every other one has a separator in front of it.
  have next : PrefixFree fun xs : List α => xs.flatMap (fun x => separator :: write x) ++ [stop] :=
    (free.behind [separator]).sequence fun x => ⟨separator, write x, rfl, differ⟩
  rintro (_ | ⟨x, xs⟩) (_ | ⟨y, ys⟩) rest tail same
  · simpa [joinWith] using same
  · simp only [List.map_nil, List.map_cons, joinWith_eq_flatMap, joinWith, List.append_assoc,
      List.nil_append, List.singleton_append] at same
    exact absurd same.symm (apart.ne y _ _)
  · simp only [List.map_nil, List.map_cons, joinWith_eq_flatMap, joinWith, List.append_assoc,
      List.nil_append, List.singleton_append] at same
    exact absurd same (apart.ne x _ _)
  · simp only [List.map_cons, joinWith_eq_flatMap, List.flatMap_map, List.append_assoc] at same
    obtain ⟨rfl, later⟩ := free x y _ _ same
    obtain ⟨rfl, last⟩ := next xs ys rest tail (by simpa using later)
    exact ⟨rfl, last⟩

end PrefixFree

/-! ## Quoted texts -/

/-- The character that a letter behind a backslash stands for. -/
def escaped? : Char → Option Char
  | '"' => some '"'
  | '\\' => some '\\'
  | 'b' => some '\x08'
  | 't' => some '\t'
  | 'n' => some '\n'
  | 'f' => some '\x0C'
  | 'r' => some '\r'
  | _ => none

/-- Read one character of a quoted text. -/
def quotedChar? : List Char → Option (Char × List Char)
  | '\\' :: 'u' :: '0' :: '0' :: high :: low :: rest => do
      let code := (← Numeral.hexDigit? high) * 16 + (← Numeral.hexDigit? low)
      return (Char.ofNat code, rest)
  | '\\' :: letter :: rest => (escaped? letter).map (·, rest)
  | c :: rest => some (c, rest)
  | [] => none

/-- A character is read as it is quoted. -/
theorem quotedChar?_quoteChar (c : Char) (rest : List Char) :
    quotedChar? (quoteChar c ++ rest) = some (c, rest) := by
  unfold quoteChar
  repeat' split
  any_goals
    subst c
    rfl
  · rename_i control
    have high := Numeral.hexDigit?_digitChar (c.toNat / 16 % 16) (Nat.mod_lt _ (by decide))
    have low := Numeral.hexDigit?_digitChar (c.toNat % 16) (Nat.mod_lt _ (by decide))
    have code : c.toNat / 16 % 16 * 16 + c.toNat % 16 = c.toNat := by omega
    simp [quotedChar?, hexDigit, high, low, code]
  · rename_i noQuote noSlash _ _ _ _ _ _
    rw [List.singleton_append]
    unfold quotedChar?
    split <;> simp_all

theorem quoteChar_prefixFree : PrefixFree quoteChar :=
  .of_reader quotedChar? quotedChar?_quoteChar

/-- A quoted text can be split off, whatever it holds: the quote that ends it is the first
that no escape has taken. -/
theorem quote_prefixFree : PrefixFree quote :=
  (quoteChar_prefixFree.sequence Toml.quoteChar_eq_cons).behind ['"']

/-- A number can be split off where a comma stands behind it. -/
theorem decimal_prefixFree : PrefixFree fun n => Numeral.decimal n ++ [','] := by
  intro n m rest tail same
  have free (k : Nat) : ',' ∉ Numeral.decimal k := fun comma =>
    absurd (Numeral.decimal_subset k comma) (by decide)
  have cut := congrArg (cut? ',') same
  simp only [List.append_assoc, List.singleton_append, cut?_append (free _), Option.some.injEq,
    Prod.mk.injEq] at cut
  exact ⟨Numeral.decimal_injective cut.1, cut.2⟩

/-! ## Printable texts -/

/-- A text without control characters below U+0020. -/
def Printable (text : List Char) : Prop :=
  ∀ c ∈ text, 0x20 ≤ c.toNat

theorem Printable.append {front rest : List Char} (first : Printable front)
    (second : Printable rest) : Printable (front ++ rest) :=
  List.forall_mem_append.2 ⟨first, second⟩

theorem Printable.cons {c : Char} {rest : List Char} (first : 0x20 ≤ c.toNat)
    (second : Printable rest) : Printable (c :: rest) :=
  List.forall_mem_cons.2 ⟨first, second⟩

theorem Printable.bracketed {text : List Char} (printable : Printable text) {first last : Char}
    (opened : 0x20 ≤ first.toNat) (closed : 0x20 ≤ last.toNat) :
    Printable (first :: text ++ [last]) :=
  (Printable.cons opened printable).append (List.forall_mem_singleton.2 closed)

theorem printable_quote (text : List Char) : Printable (quote text) :=
  fun _ => printable_of_mem_quote

theorem printable_decimal (n : Nat) : Printable (Numeral.decimal n) := by
  have letters : Printable (Numeral.letters 10) := forall_mem_of_all (by decide)
  exact fun c member => letters c (Numeral.decimal_subset n member)

/-- A printable text is one line. -/
theorem Printable.fields_lineFeed {text : List Char} (printable : Printable text) :
    fields '\n' text = [text] :=
  fields_of_free fun member => absurd (printable '\n' member) (by decide)

end Text

/-! ## Selections -/

namespace Network

/-- No two networks share a name. -/
theorem name_injective {network other : Network} (same : network.name = other.name) :
    network = other := by
  have found := ofName?_name network
  rw [same, ofName?_name] at found
  exact (Option.some.inj found).symm

end Network

namespace Selection

open Text

theorem renderList_prefixFree : PrefixFree renderList := by
  have item : PrefixFree fun text : String => quote text.toList :=
    quote_prefixFree.comp fun _ _ => String.toList_inj.1
  have apart : NeverBegins (fun text : String => quote text.toList) ']' :=
    fun text => ⟨'"', _, rfl, by decide⟩
  have differ : ',' ≠ ']' := by decide
  exact (item.joined differ apart).behind ['[']

theorem renderMember_prefixFree {α : Type} {write : α → List Char} (free : PrefixFree write)
    (name : String) : PrefixFree fun x => renderMember name (write x) := by
  simpa [renderMember] using free.behind (quote name.toList ++ [':'])

/-- The members of an object one after the other. -/
theorem renderJson_eq (selection : Selection) :
    selection.renderJson = '\x7b' ::
      (renderMember "network" (quote selection.network.name.toList) ++ ',' ::
        (renderMember "input" (Numeral.decimal selection.input ++ [',']) ++
          (renderMember "policy" (renderList (selection.policy.map Policy.name)) ++ ',' ::
            (renderMember "selected" (renderList selection.selected) ++ ['\x7d'])))) := by
  simp [renderJson, joinWith, renderMember]

/-- **The JSON text of a selection can be split off**, member by member. -/
theorem renderJson_prefixFree : PrefixFree renderJson := by
  have network : PrefixFree fun network : Network =>
      renderMember "network" (quote network.name.toList) :=
    renderMember_prefixFree
      (quote_prefixFree.comp fun _ _ same => Network.name_injective (String.toList_inj.1 same)) _
  have input : PrefixFree fun n => renderMember "input" (Numeral.decimal n ++ [',']) :=
    renderMember_prefixFree decimal_prefixFree _
  have policy : PrefixFree fun policies : List Policy =>
      renderMember "policy" (renderList (policies.map Policy.name)) :=
    renderMember_prefixFree (renderList_prefixFree.comp fun _ _ =>
      List.map_inj_right (fun _ _ => Policy.name_injective) |>.1) _
  have selected : PrefixFree fun texts => renderMember "selected" (renderList texts) :=
    renderMember_prefixFree renderList_prefixFree _
  rintro ⟨network₁, input₁, policy₁, selected₁⟩ ⟨network₂, input₂, policy₂, selected₂⟩ rest tail same
  simp only [renderJson_eq, List.cons_append, List.append_assoc, List.cons.injEq, true_and] at same
  obtain ⟨rfl, afterNetwork⟩ := network _ _ _ _ same
  obtain ⟨rfl, afterInput⟩ := input _ _ _ _ (List.cons.inj afterNetwork).2
  obtain ⟨rfl, afterPolicy⟩ := policy _ _ _ _ afterInput
  obtain ⟨rfl, afterSelected⟩ := selected _ _ _ _ (List.cons.inj afterPolicy).2
  exact ⟨rfl, (List.cons.inj afterSelected).2⟩

/-! ## One line -/

theorem printable_comma : Printable [','] := List.forall_mem_singleton.2 (by decide)

theorem printable_renderList (texts : List String) : Printable (renderList texts) := by
  have joined : Printable (joinWith [','] (texts.map fun text => quote text.toList)) := by
    refine forall_mem_joinWith printable_comma fun part member => ?_
    obtain ⟨text, -, rfl⟩ := List.mem_map.1 member
    exact printable_quote text.toList
  exact joined.bracketed (by decide) (by decide)

theorem printable_renderMember (name : String) {value : List Char} (printable : Printable value) :
    Printable (renderMember name value) :=
  (printable_quote name.toList).append (.cons (by decide) printable)

/-- Control characters are written as escapes, so the text has none. -/
theorem printable_renderJson (selection : Selection) : Printable selection.renderJson := by
  have members : ∀ part ∈ [
      renderMember "network" (quote selection.network.name.toList),
      renderMember "input" (Numeral.decimal selection.input),
      renderMember "policy" (renderList (selection.policy.map Policy.name)),
      renderMember "selected" (renderList selection.selected)], Printable part := by
    simp only [List.forall_mem_cons]
    exact ⟨printable_renderMember _ (printable_quote _),
      printable_renderMember _ (printable_decimal _),
      printable_renderMember _ (printable_renderList _),
      printable_renderMember _ (printable_renderList _), List.forall_mem_nil _⟩
  have joined : Printable (joinWith [','] _) := forall_mem_joinWith printable_comma members
  exact joined.bracketed (by decide) (by decide)

/-- **The JSON text of a selection says all about it.**  Two selections have one JSON text
only if they are one selection: of the same network, with the same number of candidates, the
same policies and the same texts selected, whatever characters these texts hold.  The text has
no control character below U+0020, so it is one line. -/
theorem json_injective_on_one_line :
    (∀ selection other : Selection, selection.render .json = other.render .json ↔
      selection = other) ∧
    ∀ selection : Selection,
      (∀ c ∈ (selection.render .json).toList, 0x20 ≤ c.toNat) ∧
      fields '\n' (selection.render .json).toList = [(selection.render .json).toList] := by
  refine ⟨fun selection other => ⟨fun same => ?_, congrArg (render · .json)⟩, fun selection => ?_⟩
  · exact renderJson_prefixFree.injective (String.ofList_inj.1 same)
  · have printable : Printable (selection.render .json).toList := by
      rw [render, String.toList_ofList]
      exact selection.printable_renderJson
    exact ⟨printable, printable.fields_lineFeed⟩

/-- A path with a line feed in it, and characters that JSON texts are made of. -/
def misleading : Selection := ⟨.unix, 2, [.pick .all], ["/run/a\",\"/run/b", "/run/c\n"]⟩

/-- The three paths that it might be taken for. -/
def misread : Selection := ⟨.unix, 2, [.pick .all], ["/run/a", "/run/b", "/run/c\n"]⟩

theorem json_injective_on_one_line_misleading :
    misleading.render .json ≠ misread.render .json ∧ '\n' ∉ (misleading.render .json).toList ∧
    misleading.render .json =
      "\x7b\"network\":\"unix\",\"input\":2,\"policy\":[\"all\"],\"selected\":[\"/run/a\\\",\\\"/run/b\",\"/run/c\\n\"]\x7d" := by
  obtain ⟨same, line⟩ := json_injective_on_one_line
  refine ⟨fun alike => ?_, fun member => ?_, rfl⟩
  · exact absurd ((same _ _).1 alike) (by decide)
  · exact absurd ((line misleading).1 '\n' member) (by decide)

end Selection

end DialSelect
