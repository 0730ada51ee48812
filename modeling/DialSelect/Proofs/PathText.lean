/-
# DialSelect.Proofs.PathText -- which paths survive their text

The text of a local socket is its path.  When it is read again, the blanks at its ends are
trimmed and one marker in front is taken off.  Neither changes a path that has no blank at
either end and no marker in front (`SocketPath.Lasting`).

From any other path something is lost, and what is lost tells.  Only slashes and dots can stand
in a path without telling: its components have all its other characters in the same order
(`SocketPath.filter_components`).  Blanks and the characters of the marker are among these, so
a path that is read with anything lost is another socket (`SocketPath.eq_of_same`).

So a path comes back as the same socket exactly if nothing is lost.  Of a path that was itself
read from a text, it takes a marker in that text to lose anything, and right behind it a blank
or another marker (`Record.paths_survive`).
-/
import DialSelect.Proofs.RecordText

namespace DialSelect

set_option autoImplicit false

namespace SocketPath

/-! ## What tells -/

/-- A character that tells wherever it stands in a path. -/
def tells (c : Char) : Bool :=
  c ≠ '/' && c ≠ '.'

theorem tells_of_isBlank {c : Char} (blank : Text.isBlank c = true) : tells c = true := by
  have slash : c ≠ '/' := by
    rintro rfl
    exact absurd blank (by decide)
  have dot : c ≠ '.' := by
    rintro rfl
    exact absurd blank (by decide)
  simp [tells, slash, dot]

theorem tells_of_mem_marker {c : Char} (member : c ∈ marker) : tells c = true := by
  have all : marker.all tells := by decide
  exact List.all_eq_true.1 all c member

/-- A part between slashes that is left out has nothing in it that tells. -/
theorem filter_telling (parts : List (List Char)) :
    (parts.filter fun part => part ≠ [] ∧ part ≠ ['.']).flatten.filter tells =
      parts.flatten.filter tells := by
  induction parts with
  | nil => rfl
  | cons part others ih =>
      rw [List.filter_cons, List.flatten_cons, List.filter_append, ← ih]
      split
      · rw [List.flatten_cons, List.filter_append]
      · rename_i silent
        have nothing : part.filter tells = [] := by
          by_cases empty : part = []
          · rw [empty]
            rfl
          · obtain rfl : part = ['.'] := by simpa [empty] using silent
            rfl
        rw [nothing, List.nil_append]

/-- The components of a path have everything in it that tells, in the same order. -/
theorem filter_components (path : List Char) :
    (components path).flatten.filter tells = path.filter tells := by
  have parts : (Text.fields '/' path).flatten.filter tells = path.filter tells := by
    rw [Text.flatten_fields, List.filter_filter]
    refine List.filter_congr fun c _ => ?_
    by_cases slash : c = '/' <;> simp [tells, slash]
  rw [← parts, components]
  dsimp only
  split
  · rename_i others cut
    rw [cut, List.flatten_cons, List.filter_append, filter_telling, ← List.filter_append,
      ← List.flatten_cons]
  · exact filter_telling _

/-- A path inside another one, with what tells around it, is the same socket only if there is
nothing around it. -/
theorem eq_of_same {record again : SocketPath} {front back : List Char}
    (parts : record.path.toList = front ++ again.path.toList ++ back)
    (tellsFront : ∀ c ∈ front, tells c = true) (tellsBack : ∀ c ∈ back, tells c = true)
    (same : record.same again = true) : again = record := by
  have components := (of_decide_eq_true same).2
  have told : record.path.toList.filter tells = again.path.toList.filter tells := by
    rw [← filter_components, ← filter_components again.path.toList, components]
  rw [parts, List.filter_append, List.filter_append, List.filter_eq_self.2 tellsFront,
    List.filter_eq_self.2 tellsBack] at told
  have lengths := congrArg List.length told
  rw [List.length_append, List.length_append] at lengths
  have noFront : front = [] := List.length_eq_zero_iff.1 (by omega)
  have noBack : back = [] := List.length_eq_zero_iff.1 (by omega)
  rw [noFront, noBack, List.nil_append, List.append_nil] at parts
  cases record
  cases again
  rw [mk.injEq]
  exact String.toList_injective parts.symm

/-! ## What is lost -/

/-- What is read of a path stands inside it, and everything around that tells. -/
theorem exists_around {path : List Char} {again : SocketPath}
    (accepted : read? (Text.trim path) = some again) :
    ∃ front back, path = front ++ again.path.toList ++ back ∧ (∀ c ∈ front, tells c = true) ∧
      ∀ c ∈ back, tells c = true := by
  obtain ⟨front, back, parts, blankFront, blankBack⟩ := Text.exists_eq_trim path
  have tellsFront : ∀ c ∈ front, tells c = true := fun c member =>
    tells_of_isBlank (blankFront c member)
  have tellsBack : ∀ c ∈ back, tells c = true := fun c member =>
    tells_of_isBlank (blankBack c member)
  obtain ⟨-, marked | ⟨-, plain⟩⟩ := read?_eq_some_iff.1 accepted
  · refine ⟨front ++ marker, back, ?_, fun c member => ?_, tellsBack⟩
    · rw [List.append_assoc front, ← marked]
      exact parts
    · exact (List.mem_append.1 member).elim (tellsFront c) tells_of_mem_marker
  · exact ⟨front, back, plain ▸ parts, tellsFront, tellsBack⟩

/-- A path that is not empty, has no blank at either end and no marker in front. -/
structure Lasting (record : SocketPath) : Prop where
  nonempty : record.path.toList ≠ []
  begun : Text.StartsSolid record.path.toList
  ended : Text.EndsSolid record.path.toList
  unmarked : ¬marker <+: record.path.toList

/-- Exactly such a path is read from its text. -/
theorem read?_trim_iff_lasting {record : SocketPath} :
    read? (Text.trim record.path.toList) = some record ↔ record.Lasting := by
  rw [read?_eq_some_iff]
  constructor
  · rintro ⟨nonempty, marked | ⟨unmarked, kept⟩⟩
    · -- trimming makes no text longer, so a marker cannot have come in front
      obtain ⟨front, back, parts, -, -⟩ := Text.exists_eq_trim record.path.toList
      have longer := congrArg List.length parts
      rw [marked, List.length_append, List.length_append, List.length_append] at longer
      have some : 0 < marker.length := by decide
      omega
    · obtain ⟨begun, ended⟩ := Text.trim_eq_self_iff.1 kept
      exact ⟨nonempty, begun, ended, kept ▸ unmarked⟩
  · rintro ⟨nonempty, begun, ended, unmarked⟩
    rw [Text.trim_eq_self_iff.2 ⟨begun, ended⟩]
    exact ⟨nonempty, .inr ⟨unmarked, rfl⟩⟩

/-- A path that was read lasts unless a marker stood in front of it and a blank or another
marker right behind that. -/
theorem lasting_iff_of_read? {text : List Char} {record : SocketPath}
    (accepted : read? (Text.trim text) = some record) :
    record.Lasting ↔ ∀ rest, Text.trim text = marker ++ rest →
      Text.StartsSolid rest ∧ ¬marker <+: rest := by
  obtain ⟨nonempty, marked | ⟨unmarked, plain⟩⟩ := read?_eq_some_iff.1 accepted
  · have ended : Text.EndsSolid record.path.toList :=
      (marked ▸ Text.endsSolid_trim text).of_append marker
    constructor
    · intro lasts rest parts
      obtain rfl := List.append_cancel_left (marked.symm.trans parts)
      exact ⟨lasts.begun, lasts.unmarked⟩
    · intro clean
      obtain ⟨begun, unmarked⟩ := clean _ marked
      exact ⟨nonempty, begun, ended, unmarked⟩
  · refine ⟨fun _ rest parts => absurd ⟨rest, parts.symm⟩ unmarked, fun _ => ?_⟩
    exact ⟨nonempty, plain ▸ Text.startsSolid_trim text, plain ▸ Text.endsSolid_trim text,
      plain ▸ unmarked⟩

end SocketPath

namespace Record

theorem read_unix_eq_ok_iff {text : String} {record : SocketPath} :
    read .unix text = .ok record ↔ SocketPath.read? (Text.trim text.toList) = some record :=
  readSocketPath_eq_ok_iff

/-- **A path comes back from its text as the same socket exactly if it lasts**: it is not empty,
has no blank at either end and no marker in front.  Then it comes back as it was written.

A path that was itself read from a text lasts unless a marker stood in front of it, and right
behind the marker a blank or another marker.  So a path that is given without a marker always
comes back. -/
theorem paths_survive (record : SocketPath) :
    ((∃ again, read .unix (print .unix record) = .ok again ∧ same .unix record again = true) ↔
      record.Lasting) ∧
    (record.Lasting → read .unix (print .unix record) = .ok record) ∧
    ∀ text, read .unix text = .ok record →
      (record.Lasting ↔ ∀ rest, Text.trim text.toList = SocketPath.marker ++ rest →
        Text.StartsSolid rest ∧ ¬SocketPath.marker <+: rest) := by
  have back (lasts : record.Lasting) : read .unix (print .unix record) = .ok record :=
    read_unix_eq_ok_iff.2 (SocketPath.read?_trim_iff_lasting.2 lasts)
  refine ⟨⟨?_, fun lasts => ⟨record, back lasts, record.same_refl⟩⟩, back, ?_⟩
  · rintro ⟨again, accepted, same⟩
    have read := read_unix_eq_ok_iff.1 accepted
    obtain ⟨front, behind, parts, tellsFront, tellsBack⟩ := SocketPath.exists_around read
    obtain rfl := SocketPath.eq_of_same parts tellsFront tellsBack same
    exact SocketPath.read?_trim_iff_lasting.1 read
  · intro text accepted
    exact SocketPath.lasting_iff_of_read? (read_unix_eq_ok_iff.1 accepted)

/-- A path with a blank inside it, from behind a marker and with blanks around it all. -/
theorem paths_survive_spaced :
    let record : SocketPath := ⟨"/run/a b"⟩
    read .unix " unix:/run/a b\n" = .ok record ∧ record.Lasting ∧
    read .unix (print .unix record) = .ok record ∧
    ∃ again, read .unix (print .unix record) = .ok again ∧ same .unix record again = true := by
  intro record
  have accepted : read .unix " unix:/run/a b\n" = .ok record := rfl
  obtain ⟨comes, back, given⟩ := paths_survive record
  have lasts : record.Lasting := by
    refine (given _ accepted).2 fun rest parts => ?_
    have behind : SocketPath.marker ++ "/run/a b".toList = SocketPath.marker ++ rest := parts
    obtain rfl := List.append_cancel_left behind
    have kept : Text.trim "/run/a b".toList = "/run/a b".toList := rfl
    exact ⟨(Text.trim_eq_self_iff.1 kept).1, by decide⟩
  exact ⟨accepted, lasts, back lasts, comes.2 lasts⟩

/-- A blank behind the marker becomes the first of the path, is printed with it and then lost:
what was a path below the working directory comes back as one below the root.  And a marker
behind the marker is a path, of which nothing comes back. -/
theorem path_of_blankedMarker :
    let record : SocketPath := ⟨" /run/app.sock"⟩
    let other : SocketPath := ⟨"/run/app.sock"⟩
    let marked : SocketPath := ⟨"unix:"⟩
    read .unix "unix: /run/app.sock" = .ok record ∧ print .unix record = " /run/app.sock" ∧
    read .unix " /run/app.sock" = .ok other ∧ same .unix record other = false ∧
    read .unix "unix:unix:" = .ok marked ∧
    read .unix (print .unix marked) = .error (.empty .unix) ∧
    ¬∀ (text : String) (record : SocketPath), read .unix text = .ok record →
      ∃ again, read .unix (print .unix record) = .ok again ∧ same .unix record again = true := by
  intro record other marked
  have accepted : read .unix "unix:unix:" = .ok marked := rfl
  have refused : read .unix "unix:" = .error (.empty .unix) := rfl
  refine ⟨rfl, rfl, rfl, by decide, accepted, refused, fun every => ?_⟩
  obtain ⟨again, comes, -⟩ := every _ marked accepted
  cases refused.symm.trans comes

end Record

end DialSelect
