/-
# DialSelect.Text.Quoted -- texts between quotes

A quoted text stands between double quotes, with a backslash before a quote or a
backslash, and with every control character below U+0020 as an escape: five of
them by a letter, the others by four lower-case hexadecimal digits.  Everything
else is written as it is.
-/

namespace DialSelect.Text

set_option autoImplicit false

def hexDigit (n : Nat) : Char :=
  Nat.digitChar (n % 16)

def quoteChar (c : Char) : List Char :=
  if c = '"' then ['\\', '"']
  else if c = '\\' then ['\\', '\\']
  else if c = '\x08' then ['\\', 'b']
  else if c = '\t' then ['\\', 't']
  else if c = '\n' then ['\\', 'n']
  else if c = '\x0C' then ['\\', 'f']
  else if c = '\r' then ['\\', 'r']
  else if c.toNat < 0x20 then
    ['\\', 'u', '0', '0', hexDigit (c.toNat / 16), hexDigit (c.toNat % 16)]
  else [c]

/-- A text between quotes. -/
def quote (text : List Char) : List Char :=
  '"' :: text.flatMap quoteChar ++ ['"']

theorem printable_of_mem_quoteChar {c d : Char} (member : d ∈ quoteChar c) : 0x20 ≤ d.toNat := by
  have digit : ∀ n, n < 16 → 0x20 ≤ (Nat.digitChar n).toNat := by decide
  unfold quoteChar at member
  repeat' split at member
  all_goals
    simp only [List.mem_cons, List.not_mem_nil, or_false] at member
  · rcases member with rfl | rfl <;> decide
  · rcases member with rfl | rfl <;> decide
  · rcases member with rfl | rfl <;> decide
  · rcases member with rfl | rfl <;> decide
  · rcases member with rfl | rfl <;> decide
  · rcases member with rfl | rfl <;> decide
  · rcases member with rfl | rfl <;> decide
  · rcases member with rfl | rfl | rfl | rfl | rfl | rfl
    · decide
    · decide
    · decide
    · decide
    · exact digit _ (Nat.mod_lt _ (by decide))
    · exact digit _ (Nat.mod_lt _ (by decide))
  · rename_i large
    subst member
    omega

theorem printable_of_mem_quote {text : List Char} {d : Char} (member : d ∈ quote text) :
    0x20 ≤ d.toNat := by
  simp only [quote, List.cons_append, List.mem_cons, List.mem_append, List.mem_flatMap,
    List.not_mem_nil, or_false] at member
  rcases member with rfl | ⟨c, -, inside⟩ | rfl
  · decide
  · exact printable_of_mem_quoteChar inside
  · decide

end DialSelect.Text
