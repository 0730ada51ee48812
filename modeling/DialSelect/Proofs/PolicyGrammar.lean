/-
# DialSelect.Proofs.PolicyGrammar -- which texts are policies

The grammar of policies, as a relation between a trimmed text and what it says
(`Policy.Written`): one of ten words, or the limit's word, a colon, blanks and a positive
count.  A letter of a word may be of either case, and a hyphen may be an underscore; that
is a matter of ASCII alone, although names are compared in the lower case of Unicode.

The reader looks for the limit's word in front first.  Where it stands, the text is a
policy exactly if a limit follows (`Policy.read_of_namesLimit`); where it does not, exactly
if the text is a word (`Policy.read_of_not_namesLimit`).  So the reader accepts what the grammar
accepts, and a refusal blames the limit exactly where the limit's word stands in front.
-/
import DialSelect.Proofs.NormalForm
import DialSelect.Proofs.Numerals

namespace DialSelect.Policy

set_option autoImplicit false

open Text (IsAscii isBlank trim trimStart EndsSolid)
open Numeral (WrittenCount readCount)

/-! ## The grammar -/

def vocabulary : List (String × Policy) := [
  ("default", .pick .default), ("all", .pick .all), ("first", .pick .first),
  ("first-each", .pick .firstEach), ("first-ipv4", .pick (.firstOf .v4)),
  ("first-ipv6", .pick (.firstOf .v6)), ("ipv4", .pick (.only .v4)), ("ipv6", .pick (.only .v6)),
  ("reverse", .pick .reverse), ("shuffle", .shuffle)]

/-- What stands behind the limit's word, if it is a limit. -/
inductive WrittenLimit (text : List Char) (max : Nat) : Prop where
  | intro (blanks count : List Char) (parts : text = ':' :: (blanks ++ count))
      (blank : ∀ c ∈ blanks, isBlank c = true) (counted : WrittenCount count max)
      (positive : 0 < max)

/-- What a text without blanks around it says, if it is a policy. -/
inductive Written (text : List Char) : Policy → Prop where
  | word {name : String} {policy : Policy} (entry : (name, policy) ∈ vocabulary)
      (same : text.map fold = name.toList) : Written text policy
  | limit {word rest : List Char} {max : Nat} (parts : text = word ++ rest)
      (same : word.map fold = limitWord) (limit : WrittenLimit rest max) :
      Written text (.pick (.atMost max))

def NamesLimit (text : List Char) : Prop :=
  limitWord <+: text.map fold

theorem namesLimit_iff {text : List Char} :
    NamesLimit text ↔ ∃ word rest, text = word ++ rest ∧ word.map fold = limitWord := by
  constructor
  · rintro ⟨others, same⟩
    obtain ⟨word, rest, parts, folded, -⟩ := List.map_eq_append_iff.1 same.symm
    exact ⟨word, rest, parts, folded⟩
  · rintro ⟨word, rest, rfl, folded⟩
    exact ⟨rest.map fold, by rw [List.map_append, folded]⟩

/-- No word begins with the limit's word. -/
theorem not_namesLimit_of_word {text : List Char} {name : String} {policy : Policy}
    (entry : (name, policy) ∈ vocabulary) (same : text.map fold = name.toList) :
    ¬ NamesLimit text := by
  have apart : ∀ entry ∈ vocabulary, ¬ limitWord <+: entry.1.toList := by decide
  rw [NamesLimit, same]
  exact apart _ entry

/-! ## Limits -/

theorem readLimit_eq_ok_iff {text : List Char} {max : Nat} :
    readLimit text = .ok max ↔
      ∃ rest, text = ':' :: rest ∧ readCount (trim rest) = .ok max ∧ 0 < max := by
  constructor
  · intro read
    have positive : 0 < max := pos_of_readLimit read
    unfold readLimit at read
    split at read
    · rename_i rest
      refine ⟨rest, rfl, ?_, positive⟩
      dsimp only at read
      cases counted : readCount (trim rest) with
      | error fault =>
          rw [counted] at read
          cases read
      | ok n =>
          rw [counted] at read
          dsimp only at read
          split at read
          · cases read
          · rw [Except.ok.inj read]
    · cases read
  · rintro ⟨rest, rfl, counted, positive⟩
    simp only [readLimit, counted]
    exact if_neg (Nat.ne_of_gt positive)

theorem subset_marks_of_writtenCount {text : List Char} {n : Nat} (counted : WrittenCount text n) :
    text ⊆ marks := by
  obtain ⟨sign, digits, rfl, signed, -, decimal, -, -⟩ := counted
  refine List.append_subset.2 ⟨?_, fun c member => mem_marks_of_isDigit (decimal c member)⟩
  rcases signed with rfl | rfl
  · exact List.nil_subset marks
  · decide

/-- A count is its own normal form and that of no other text. -/
theorem writtenCount_normalAfter_iff {before text : List Char} {n : Nat} :
    WrittenCount (normalAfter before text) n ↔ WrittenCount text n := by
  constructor
  · intro counted
    have within := subset_marks_of_writtenCount counted
    have plain : ∀ d ∈ normalAfter before text, IsAscii d ∧ d ≠ 'k' := fun d member =>
      ⟨(isAscii_of_mem_marks d (within member)).1, (isAscii_of_mem_marks d (within member)).2.1⟩
    have same := (map_fold_eq_iff within).1 ((normalAfter_eq_iff plain).1 rfl)
    exact same ▸ counted
  · intro counted
    have within := subset_marks_of_writtenCount counted
    have plain : ∀ d ∈ text, IsAscii d ∧ d ≠ 'k' := fun d member =>
      ⟨(isAscii_of_mem_marks d (within member)).1, (isAscii_of_mem_marks d (within member)).2.1⟩
    rw [(normalAfter_eq_iff plain).2 ((map_fold_eq_iff within).2 rfl)]
    exact counted

/-- A limit is read in a normal form exactly where one is written. -/
theorem readLimit_normalAfter (before : List Char) {text : List Char} {max : Nat}
    (ended : EndsSolid text) :
    readLimit (normalAfter before text) = .ok max ↔ WrittenLimit text max := by
  have colon : IsAscii ':' ∧ ':' ≠ 'k' ∧ ':' ≠ 'i' ∧ fold ':' = ':' :=
    isAscii_of_mem_marks ':' List.mem_cons_self
  constructor
  · intro read
    obtain ⟨_, normal, counted, positive⟩ := readLimit_eq_ok_iff.1 read
    obtain ⟨c, rest, rfl, folded, rfl⟩ :=
      (normalAfter_eq_cons_iff colon.1 colon.2.1 colon.2.2.1).1 normal
    have mark : fold c ∈ marks := folded ▸ List.mem_cons_self
    obtain rfl : c = ':' := (eq_of_fold_mem_marks mark).symm.trans folded
    have behind : EndsSolid rest := ended.of_append [':']
    obtain ⟨context, trimmed⟩ := trim_normalAfter (':' :: before) behind
    rw [trimmed, Numeral.readCount_eq_ok_iff, writtenCount_normalAfter_iff] at counted
    refine ⟨rest.takeWhile isBlank, trimStart rest, ?_, ?_, counted, positive⟩
    · exact congrArg _ List.takeWhile_append_dropWhile.symm
    · exact List.all_eq_true.1 List.all_takeWhile
  · rintro ⟨blanks, count, rfl, blank, counted, positive⟩
    have behind : EndsSolid (blanks ++ count) := ended.of_append [':']
    obtain ⟨context, trimmed⟩ := trim_normalAfter (':' :: before) behind
    have solid : Text.Solid count := solid_marks.subset (subset_marks_of_writtenCount counted)
    rw [Text.trimStart_append blank, Text.trimStart_of_solid solid] at trimmed
    refine readLimit_eq_ok_iff.2 ⟨normalAfter (':' :: before) (blanks ++ count), ?_, ?_, positive⟩
    · exact (normalAfter_eq_cons_iff colon.1 colon.2.1 colon.2.2.1).2
        ⟨':', _, rfl, colon.2.2.2, rfl⟩
    · rw [trimmed, Numeral.readCount_eq_ok_iff, writtenCount_normalAfter_iff]
      exact counted

/-! ## Words -/

theorem ofPlainName?_eq_some_iff {name : String} {policy : Policy} :
    ofPlainName? name = some policy ↔ (name, policy) ∈ vocabulary := by
  constructor
  · intro found
    have listed : policy ∈ plain := List.mem_of_find?_eq_some found
    have named : plainName? policy = some name := by
      unfold ofPlainName? at found
      exact of_decide_eq_true (List.find?_some found :)
    have table : ∀ policy ∈ plain, ((plainName? policy).getD "", policy) ∈ vocabulary := by decide
    simpa [named] using table policy listed
  · have table : ∀ entry ∈ vocabulary, ofPlainName? entry.1 = some entry.2 := by decide
    exact table (name, policy)

/-- A word is found under a normal form exactly where one is written. -/
theorem ofPlainName?_normalAfter (before : List Char) {text : List Char} {policy : Policy} :
    ofPlainName? (String.ofList (normalAfter before text)) = some policy ↔
      ∃ name, (name, policy) ∈ vocabulary ∧ text.map fold = name.toList := by
  have table : ∀ entry ∈ vocabulary,
      (entry.1.toList.all fun d => decide (IsAscii d ∧ d ≠ 'k')) = true := by decide
  have plain (entry) (listed : entry ∈ vocabulary) : ∀ d ∈ entry.1.toList, IsAscii d ∧ d ≠ 'k' :=
    Text.forall_mem_of_all (table entry listed)
  rw [ofPlainName?_eq_some_iff]
  constructor
  · intro entry
    refine ⟨_, entry, ?_⟩
    have letters := plain _ entry
    rw [String.toList_ofList] at letters ⊢
    exact (normalAfter_eq_iff letters).1 rfl
  · rintro ⟨name, entry, same⟩
    rw [(normalAfter_eq_iff (plain _ entry)).2 same, String.ofList_toList]
    exact entry

/-! ## Reading -/

theorem limitWord_plain : ∀ d ∈ limitWord, IsAscii d ∧ d ≠ 'k' ∧ d ≠ 'i' :=
  Text.forall_mem_of_all (by decide)

/-- A text with the limit's word in front is read as what follows that word is. -/
theorem read_of_namesLimit {text : String} {word rest : List Char}
    (parts : trim text.toList = word ++ rest) (same : word.map fold = limitWord) :
    read text = ((readLimit (normalAfter word.reverse rest)).mapError (.badLimit text)).map
      fun max => .pick (.atMost max) := by
  have form : normalAfter [] (word ++ rest) = limitWord ++ normalAfter word.reverse rest :=
    (normalAfter_eq_append_iff limitWord_plain).2
      ⟨word, rest, rfl, same, by rw [List.append_nil]⟩
  unfold read
  dsimp only
  rw [normalize_eq, parts, form, Text.stripLead?_append]
  dsimp only
  cases readLimit (normalAfter word.reverse rest) <;> rfl

/-- Any other text is looked up as a word. -/
theorem read_of_not_namesLimit {text : String} (other : ¬ NamesLimit (trim text.toList)) :
    read text = (ofPlainName? (String.ofList (normalAfter [] (trim text.toList)))).elim
      (.error (.unknown text)) .ok := by
  have absent : Text.stripLead? limitWord (normalAfter [] (trim text.toList)) = none := by
    refine Option.eq_none_iff_forall_ne_some.2 fun rest stripped => other ?_
    rw [Text.stripLead?_eq_some_iff] at stripped
    obtain ⟨word, rest, parts, same, -⟩ := (normalAfter_eq_append_iff limitWord_plain).1 stripped
    exact namesLimit_iff.2 ⟨word, rest, parts, same⟩
  unfold read
  dsimp only
  rw [normalize_eq, absent]
  cases ofPlainName? (String.ofList (normalAfter [] (trim text.toList))) <;> rfl

/-- Behind the limit's word, only a limit is a policy. -/
theorem written_iff_of_limitWord {word rest : List Char} {policy : Policy}
    (same : word.map fold = limitWord) :
    Written (word ++ rest) policy ↔ ∃ max, WrittenLimit rest max ∧ policy = .pick (.atMost max) := by
  constructor
  · intro written
    cases written with
    | word entry named =>
        exact absurd (namesLimit_iff.2 ⟨word, rest, rfl, same⟩)
          (not_namesLimit_of_word entry named)
    | @limit front behind max parts folded limit =>
        have length : word.length = front.length := by
          rw [← List.length_map fold, same, ← folded, List.length_map]
        obtain ⟨-, rfl⟩ := List.append_inj parts length
        exact ⟨max, limit, rfl⟩
  · rintro ⟨max, limit, rfl⟩
    exact .limit rfl same limit

/-- Where the limit's word is not in front, only a word is a policy. -/
theorem written_iff_of_not_namesLimit {text : List Char} {policy : Policy}
    (other : ¬ NamesLimit text) :
    Written text policy ↔ ∃ name, (name, policy) ∈ vocabulary ∧ text.map fold = name.toList := by
  constructor
  · intro written
    cases written with
    | @word name _ entry named => exact ⟨name, entry, named⟩
    | @limit front behind _ parts folded _ =>
        exact absurd (namesLimit_iff.2 ⟨front, behind, parts, folded⟩) other
  · rintro ⟨name, entry, named⟩
    exact .word entry named

theorem read_eq_ok_iff {text : String} {policy : Policy} :
    read text = .ok policy ↔ Written (trim text.toList) policy := by
  by_cases named : NamesLimit (trim text.toList)
  · obtain ⟨word, rest, parts, same⟩ := namesLimit_iff.1 named
    have ended : EndsSolid rest := (parts ▸ Text.endsSolid_trim text.toList).of_append word
    rw [read_of_namesLimit parts same, parts, written_iff_of_limitWord same]
    simp only [← readLimit_normalAfter word.reverse ended]
    cases readLimit (normalAfter word.reverse rest) with
    | error fault =>
        constructor
        · rintro ⟨⟩
        · rintro ⟨_, ⟨⟩, _⟩
    | ok max =>
        constructor
        · rintro ⟨⟩
          exact ⟨max, rfl, rfl⟩
        · rintro ⟨_, ⟨⟩, rfl⟩
          rfl
  · rw [read_of_not_namesLimit named, written_iff_of_not_namesLimit named,
      ← ofPlainName?_normalAfter []]
    cases ofPlainName? (String.ofList (normalAfter [] (trim text.toList))) with
    | none => simp
    | some found => simp

/-- With the limit's word in front, a refusal is about the limit. -/
theorem read_cases_of_namesLimit {text : String} (named : NamesLimit (trim text.toList)) :
    (∃ policy, read text = .ok policy) ∨ ∃ fault, read text = .error (.badLimit text fault) := by
  obtain ⟨word, rest, parts, same⟩ := namesLimit_iff.1 named
  rw [read_of_namesLimit parts same]
  cases readLimit (normalAfter word.reverse rest) with
  | error fault => exact .inr ⟨fault, rfl⟩
  | ok max => exact .inl ⟨.pick (.atMost max), rfl⟩

/-- Otherwise a refusal is about the name. -/
theorem read_cases_of_not_namesLimit {text : String} (other : ¬ NamesLimit (trim text.toList)) :
    (∃ policy, read text = .ok policy) ∨ read text = .error (.unknown text) := by
  rw [read_of_not_namesLimit other]
  cases ofPlainName? (String.ofList (normalAfter [] (trim text.toList))) with
  | none => exact .inr rfl
  | some policy => exact .inl ⟨policy, rfl⟩

/-- **The reader accepts exactly the grammar.**  A text is read as a policy exactly if that
policy is written between its blanks.  If none is, the text is refused as a bad limit where
it begins with the limit's word and as an unknown name where it does not, and the refusal
carries the text as it was given. -/
theorem read_follows_grammar (text : String) :
    (∀ policy, read text = .ok policy ↔ Written (trim text.toList) policy) ∧
    ((∃ fault, read text = .error (.badLimit text fault)) ↔
      NamesLimit (trim text.toList) ∧ ∀ policy, ¬ Written (trim text.toList) policy) ∧
    (read text = .error (.unknown text) ↔
      ¬ NamesLimit (trim text.toList) ∧ ∀ policy, ¬ Written (trim text.toList) policy) := by
  have unwritten {error : PolicyError} (refused : read text = .error error) (policy : Policy) :
      ¬ Written (trim text.toList) policy := by
    rw [← read_eq_ok_iff, refused]
    exact nofun
  refine ⟨fun policy => read_eq_ok_iff, ?_, ?_⟩
  · constructor
    · rintro ⟨fault, refused⟩
      refine ⟨?_, unwritten refused⟩
      by_cases named : NamesLimit (trim text.toList)
      · exact named
      · rcases read_cases_of_not_namesLimit named with ⟨policy, accepted⟩ | unknown
        · cases refused.symm.trans accepted
        · cases refused.symm.trans unknown
    · rintro ⟨named, no⟩
      refine (read_cases_of_namesLimit named).resolve_left ?_
      rintro ⟨policy, accepted⟩
      exact no policy (read_eq_ok_iff.1 accepted)
  · constructor
    · intro refused
      refine ⟨fun named => ?_, unwritten refused⟩
      rcases read_cases_of_namesLimit named with ⟨policy, accepted⟩ | ⟨fault, limit⟩
      · cases refused.symm.trans accepted
      · cases refused.symm.trans limit
    · rintro ⟨other, no⟩
      refine (read_cases_of_not_namesLimit other).resolve_left ?_
      rintro ⟨policy, accepted⟩
      exact no policy (read_eq_ok_iff.1 accepted)

/-- The capital dotted I is not an `i`, and a limit may have a plus sign and zeros. -/
example : read " \u0130PV4" = .error (.unknown " \u0130PV4") ∧
    read "Max:\u2003+007\t" = .ok (.pick (.atMost 7)) := ⟨rfl, rfl⟩

end DialSelect.Policy
