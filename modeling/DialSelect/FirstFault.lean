/-
# DialSelect.FirstFault -- reading a list item by item

Candidates, policies and indices are read one after the other, and the first that
is refused ends the reading with its own fault.  That is `List.mapM` over `Except`.

The two laws say all about it: reading succeeds exactly when every item does
(`mapM_eq_ok_iff`), and it fails with a fault exactly when an item has that fault
and every item in front of it is read (`mapM_eq_error_iff`).
-/

namespace DialSelect.FirstFault

set_option autoImplicit false

variable {α β ε : Type} {f : α → Except ε β}

theorem mapM_cons_ok {x : α} {y : β} (read : f x = .ok y) (xs : List α) :
    (x :: xs).mapM f = (xs.mapM f).map (y :: ·) := by
  rw [List.mapM_cons, read]
  cases xs.mapM f <;> rfl

theorem mapM_cons_error {x : α} {fault : ε} (refused : f x = .error fault) (xs : List α) :
    (x :: xs).mapM f = .error fault := by
  rw [List.mapM_cons, refused]
  rfl

theorem mapM_eq_ok_iff {xs : List α} {ys : List β} :
    xs.mapM f = .ok ys ↔ xs.map f = ys.map .ok := by
  induction xs generalizing ys with
  | nil => cases ys <;> simp [pure, Except.pure]
  | cons x xs ih =>
      cases item : f x with
      | error fault =>
          rw [mapM_cons_error item]
          cases ys <;> simp [item]
      | ok y =>
          rw [mapM_cons_ok item]
          cases ys with
          | nil => cases xs.mapM f <;> simp [Except.map]
          | cons z zs =>
              rw [List.map_cons, List.map_cons, item, List.cons.injEq, ← ih]
              cases xs.mapM f <;> simp [Except.map]

/-- Reading stops at the first item that is refused, with the fault of that item. -/
theorem mapM_eq_error_iff {xs : List α} {fault : ε} :
    xs.mapM f = .error fault ↔ ∃ before x after, xs = before ++ x :: after ∧
      (∀ b ∈ before, ∃ y, f b = .ok y) ∧ f x = .error fault := by
  induction xs with
  | nil =>
      constructor
      · intro read
        simp [pure, Except.pure] at read
      · rintro ⟨before, x, after, same, -⟩
        cases before <;> cases same
  | cons z zs ih =>
      cases item : f z with
      | error first =>
          rw [mapM_cons_error item, Except.error.injEq]
          constructor
          · rintro rfl
            exact ⟨[], z, zs, rfl, nofun, item⟩
          · rintro ⟨before, x, after, same, good, refused⟩
            cases before with
            | nil =>
                obtain ⟨rfl, -⟩ := List.cons.inj same
                exact Except.error.inj (item.symm.trans refused)
            | cons b bs =>
                obtain ⟨rfl, -⟩ := List.cons.inj same
                obtain ⟨y, read⟩ := good z List.mem_cons_self
                cases item.symm.trans read
      | ok y =>
          have tail : (z :: zs).mapM f = .error fault ↔ zs.mapM f = .error fault := by
            rw [mapM_cons_ok item]
            cases zs.mapM f <;> simp [Except.map]
          rw [tail, ih]
          constructor
          · rintro ⟨before, x, after, rfl, good, refused⟩
            refine ⟨z :: before, x, after, rfl, ?_, refused⟩
            intro b member
            rcases List.mem_cons.1 member with rfl | inside
            · exact ⟨y, item⟩
            · exact good b inside
          · rintro ⟨before, x, after, same, good, refused⟩
            cases before with
            | nil =>
                obtain ⟨rfl, -⟩ := List.cons.inj same
                cases item.symm.trans refused
            | cons b bs =>
                obtain ⟨-, rfl⟩ := List.cons.inj same
                exact ⟨bs, x, after, rfl, fun c inside => good c (List.mem_cons_of_mem b inside),
                  refused⟩

/-- Every item is read exactly when the items have something to be read as. -/
theorem exists_map_eq_ok_iff {xs : List α} :
    (∃ ys : List β, xs.map f = ys.map .ok) ↔ ∀ x ∈ xs, ∃ y, f x = .ok y := by
  constructor
  · rintro ⟨ys, read⟩ x member
    obtain ⟨y, -, same⟩ := List.mem_map.1 (read ▸ List.mem_map_of_mem member)
    exact ⟨y, same.symm⟩
  · intro read
    induction xs with
    | nil => exact ⟨[], rfl⟩
    | cons x xs ih =>
        obtain ⟨y, here⟩ := read x List.mem_cons_self
        obtain ⟨ys, later⟩ := ih fun z member => read z (List.mem_cons_of_mem x member)
        exact ⟨y :: ys, by rw [List.map_cons, List.map_cons, here, later]⟩

theorem bind_eq_ok_iff {γ : Type} {first : Except ε α} {next : α → Except ε γ} {z : γ} :
    first >>= next = .ok z ↔ ∃ x, first = .ok x ∧ next x = .ok z := by
  cases first with
  | error fault => exact ⟨nofun, fun ⟨_, same, _⟩ => nomatch same⟩
  | ok x => exact ⟨fun done => ⟨x, rfl, done⟩, fun ⟨_, same, done⟩ => Except.ok.inj same ▸ done⟩

/-- Two steps fail exactly when the first does, or the first succeeds and then the second
fails. -/
theorem bind_eq_error_iff {γ : Type} {first : Except ε α} {next : α → Except ε γ} {fault : ε} :
    first >>= next = .error fault ↔
      first = .error fault ∨ ∃ x, first = .ok x ∧ next x = .error fault := by
  cases first with
  | error other =>
      have stopped : Except.error other >>= next = .error other := rfl
      rw [stopped, Except.error.injEq, Except.error.injEq]
      exact ⟨.inl, fun failed => failed.resolve_right fun ⟨_, same, _⟩ => nomatch same⟩
  | ok x =>
      refine ⟨fun failed => .inr ⟨x, rfl, failed⟩, ?_⟩
      rintro (⟨⟨⟩⟩ | ⟨y, ⟨⟩, failed⟩)
      exact failed

theorem not_exists_ok_iff {read : Except ε α} :
    (¬∃ x, read = .ok x) ↔ ∃ fault, read = .error fault := by
  cases read <;> simp

/-- Renaming faults changes no result. -/
theorem mapError_eq_ok_iff {δ : Type} {rename : ε → δ} {read : Except ε α} {x : α} :
    read.mapError rename = .ok x ↔ read = .ok x := by
  cases read with
  | error fault => constructor <;> rintro ⟨⟩
  | ok y => constructor <;> rintro ⟨⟩ <;> rfl

theorem mapError_eq_error_iff {δ : Type} {rename : ε → δ} {read : Except ε α} {fault : δ} :
    read.mapError rename = .error fault ↔ ∃ named, read = .error named ∧ fault = rename named := by
  cases read with
  | error named =>
      constructor
      · rintro ⟨⟩
        exact ⟨named, rfl, rfl⟩
      · rintro ⟨_, ⟨⟩, rfl⟩
        rfl
  | ok y =>
      constructor
      · rintro ⟨⟩
      · rintro ⟨_, ⟨⟩, _⟩

theorem length_eq_of_mapM {xs : List α} {ys : List β} (read : xs.mapM f = .ok ys) :
    ys.length = xs.length := by
  have same := congrArg List.length (mapM_eq_ok_iff.1 read)
  rw [List.length_map, List.length_map] at same
  exact same.symm

end DialSelect.FirstFault
