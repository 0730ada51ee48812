/-
# DialSelect.Proofs.Files -- a file that is written is read back

A file is written where nothing is or a file is (`FileTree.cases_of_write`).  So what was a
directory before stays one (`FileTree.node?_put_of_directory`), every path leads where it led
(`FileTree.walk_put`), and the path that was written leads to the new content
(`FileTree.read_write`).  So a tree of files is what one expects of files (`FileTree.lawful`).
-/
import DialSelect.FileTree
import DialSelect.FirstFault

namespace DialSelect.FileTree

set_option autoImplicit false

variable {tree written : FileTree} {target : List String} {content : ByteArray}

/-! ## The tree with a file in a place -/

theorem node?_put_self (inside : target ≠ []) :
    (tree.put target content).node? (.inside target) = some (.file content) := by
  obtain ⟨name, others, rfl⟩ := List.exists_cons_of_ne_nil inside
  simp [node?, put]

/-- Where something else is looked for, the entries are the ones that were there. -/
theorem find?_put {path : List String} (other : path ≠ target) :
    ((tree.put target content).entries.find? fun entry => entry.1 = path) =
      tree.entries.find? fun entry => entry.1 = path := by
  have passed : ¬target = path := fun same => other same.symm
  rw [put, List.find?_cons_of_neg (by simpa using passed), List.find?_filter]
  congr
  funext entry
  by_cases same : entry.1 = path <;> simp [same, other]

/-- What was a directory stays one, unless the file is put in its place. -/
theorem node?_put_of_directory {place : Place} (directory : tree.node? place = some .directory)
    (other : place ≠ .inside target) :
    (tree.put target content).node? place = some .directory := by
  cases place with
  | outside => rfl
  | inside path =>
      cases path with
      | nil => rfl
      | cons name names =>
          have differ : name :: names ≠ target := fun same => other (same ▸ rfl)
          simp only [node?] at directory ⊢
          rw [find?_put differ]
          split at directory
          · exact directory
          · split at directory
            · rename_i held
              obtain ⟨entry, listed, below⟩ := List.any_eq_true.1 held
              rw [if_pos]
              by_cases replaced : entry.1 = target
              · -- the entry that showed the directory is replaced, and the file shows it
                simp [put, ← replaced, below]
              · have kept : entry ∈ (tree.put target content).entries := by
                  simp [put, listed, replaced]
                exact List.any_eq_true.2 ⟨entry, kept, below⟩
            · cases directory

/-! ## Paths -/

section Paths

variable (content) (free : tree.node? (.inside target) ≠ some .directory)

include free

theorem advance_put {place next : Place} {name : String}
    (went : tree.advance place name = .ok next) :
    (tree.put target content).advance place name = .ok next := by
  unfold advance at went ⊢
  cases found : tree.node? place with
  | none => simp [found] at went
  | some node =>
      cases node with
      | file _ => simp [found] at went
      | directory =>
          have other : place ≠ .inside target := by
            rintro rfl
            exact free found
          rw [found] at went
          rw [node?_put_of_directory found other]
          exact went

/-- A way from a place leads where it led. -/
theorem walk_put {place found : Place} {names : List String}
    (went : tree.walk place names = .ok found) :
    (tree.put target content).walk place names = .ok found := by
  induction names generalizing place with
  | nil => exact went
  | cons name others ih =>
      obtain ⟨next, first, rest⟩ := FirstFault.bind_eq_ok_iff.1 went
      exact FirstFault.bind_eq_ok_iff.2 ⟨next, advance_put content free first, ih rest⟩

theorem locate_put {path : String} {found : Place} (located : tree.locate path = .ok found) :
    (tree.put target content).locate path = .ok found := by
  unfold locate follow at located ⊢
  repeat' split at located
  · cases located
  · cases located
  · cases located
  · rename_i noNul nonempty short
    rw [if_neg noNul, if_neg nonempty, if_neg short]
    exact walk_put content free located

end Paths

/-! ## Writing -/

/-- A file is written in a place of the tree that is no directory, and the path does not say that
it is one. -/
theorem cases_of_write {path : String} (done : tree.write path content = .ok written) :
    ∃ target, tree.locate path = .ok (.inside target) ∧
      tree.node? (.inside target) ≠ some .directory ∧ namesDirectory path = false ∧
      written = tree.put target content := by
  unfold write at done
  split at done
  · cases done
  · obtain ⟨place, located, rest⟩ := FirstFault.bind_eq_ok_iff.1 done
    split at rest
    · cases rest
    · cases rest
    · rename_i target free
      split at rest
      · cases rest
      · rename_i unclosed
        obtain rfl := Except.ok.inj rest
        exact ⟨target, located, free, by simpa using unclosed, rfl⟩

/-- What is written to a path is read from it. -/
theorem read_write {path : String} (done : tree.write path content = .ok written) :
    written.read path = .ok content := by
  obtain ⟨target, located, free, unclosed, rfl⟩ := cases_of_write done
  have inside : target ≠ [] := by
    rintro rfl
    exact free rfl
  refine FirstFault.bind_eq_ok_iff.2 ⟨.inside target, locate_put content free located, ?_⟩
  rw [node?_put_self inside]
  simp [unclosed]

theorem lawful : FileSystem.Lawful FileTree where
  read_write _ _ _ _ := read_write
  read_empty _ _ := nofun

end DialSelect.FileTree
