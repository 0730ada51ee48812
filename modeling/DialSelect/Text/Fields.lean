/-
# DialSelect.Text.Fields -- cutting a text at a separator

`fields` cuts at every occurrence of a separator and always yields at least one
field; `cut?` cuts at the first occurrence only.  `joinWith` is the other
direction.
-/

namespace DialSelect.Text

set_option autoImplicit false

/-- The fields between the occurrences of `separator`: one more than there are
occurrences, each free of the separator. -/
def fields (separator : Char) : List Char → List (List Char)
  | [] => [[]]
  | c :: rest =>
      if c = separator then [] :: fields separator rest
      else
        match fields separator rest with
        | [] => [[c]]
        | field :: others => (c :: field) :: others

/-- The text before and after the first occurrence of `separator`. -/
def cut? (separator : Char) : List Char → Option (List Char × List Char)
  | [] => none
  | c :: rest =>
      if c = separator then some ([], rest)
      else (cut? separator rest).map fun parts => (c :: parts.1, parts.2)

/-- `text` without the leading `lead`, if it starts with it. -/
def stripLead? : List Char → List Char → Option (List Char)
  | [], text => some text
  | _ :: _, [] => none
  | a :: lead, c :: text => if a = c then stripLead? lead text else none

/-- The parts one after the other, with `separator` between any two. -/
def joinWith (separator : List Char) : List (List Char) → List Char
  | [] => []
  | [part] => part
  | part :: others => part ++ separator ++ joinWith separator others

theorem fields_ne_nil (separator : Char) (text : List Char) : fields separator text ≠ [] := by
  induction text with
  | nil => simp [fields]
  | cons c rest ih =>
      simp only [fields]
      split
      · simp
      · split <;> simp

/-- Cutting loses only the separator that was cut at. -/
theorem eq_of_cut? {separator : Char} {text before after : List Char}
    (found : cut? separator text = some (before, after)) :
    text = before ++ separator :: after ∧ separator ∉ before := by
  induction text generalizing before with
  | nil => simp [cut?] at found
  | cons c rest ih =>
      simp only [cut?] at found
      split at found
      · rename_i same
        simp only [Option.some.injEq, Prod.mk.injEq] at found
        obtain ⟨rfl, rfl⟩ := found
        simp [same]
      · rename_i different
        obtain ⟨⟨front, back⟩, inner, outer⟩ := Option.map_eq_some_iff.1 found
        simp only [Prod.mk.injEq] at outer
        obtain ⟨rfl, rfl⟩ := outer
        obtain ⟨rfl, absent⟩ := ih inner
        refine ⟨rfl, ?_⟩
        simp only [List.mem_cons, not_or]
        exact ⟨fun e => different e.symm, absent⟩

/-- What remains after a leading text is what followed it. -/
theorem eq_of_stripLead? {lead text rest : List Char} (stripped : stripLead? lead text = some rest) :
    text = lead ++ rest := by
  induction lead generalizing text with
  | nil => simpa [stripLead?] using stripped
  | cons a lead ih =>
      cases text with
      | nil => simp [stripLead?] at stripped
      | cons c text =>
          simp only [stripLead?] at stripped
          split at stripped
          · rename_i same
            subst same
            rw [ih stripped]
            rfl
          · simp at stripped

end DialSelect.Text
