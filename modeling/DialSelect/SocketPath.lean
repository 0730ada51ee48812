/-
# DialSelect.SocketPath -- local socket paths

A path is kept as it was written, and two paths name the same socket when they
agree component by component: repeated slashes, a trailing slash and inner `.`
components do not count, while being absolute, a leading `.` and every `..` do.
-/
import DialSelect.Text.Fields

namespace DialSelect

set_option autoImplicit false

structure SocketPath where
  path : String
  deriving DecidableEq, Repr

namespace SocketPath

/-- The marker that may stand before a path. -/
def marker : List Char := ['u', 'n', 'i', 'x', ':']

def isAbsolute (path : List Char) : Bool :=
  path.head? = some '/'

/-- The components between slashes that say something: neither empty nor `.`,
except that a relative path keeps a `.` it starts with. -/
def components (path : List Char) : List (List Char) :=
  let parts := Text.fields '/' path
  let telling := fun part : List Char => part ≠ [] ∧ part ≠ ['.']
  match parts with
  | ['.'] :: others => ['.'] :: others.filter telling
  | _ => parts.filter telling

/-- Two paths name the same socket when both or neither are absolute and their
components agree. -/
def same (x y : SocketPath) : Bool :=
  isAbsolute x.path.toList = isAbsolute y.path.toList ∧
    components x.path.toList = components y.path.toList

/-- Read a path, without the marker if it starts with one; nothing is no path. -/
def read? (text : List Char) : Option SocketPath :=
  let path := (Text.stripLead? marker text).getD text
  if path.isEmpty then none else some ⟨String.ofList path⟩

theorem same_refl (x : SocketPath) : x.same x = true := by
  simp [same]

end SocketPath

end DialSelect
