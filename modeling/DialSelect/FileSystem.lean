/-
# DialSelect.FileSystem -- files that can be read and written

What a path leads to is up to the files around a program: a directory that it was
started in, another one, a device.  Of all that a program sees two operations only,
to read what is at a path and to write something there, and each of them can be
refused.  Nothing is assumed about how the two belong together; what one may expect
of them has a name (`FileSystem.Lawful`).
-/
namespace DialSelect

set_option autoImplicit false

/-- Why the operating system refuses a path. -/
inductive PathFault where
  | notFound
  | notADirectory
  | isADirectory
  | nameTooLong
  /-- A path with a NUL character never reaches the system. -/
  | nulInPath
  /-- Any other refusal, in the system's words. -/
  | other (reason : String)
  deriving DecidableEq, Repr

def PathFault.message : PathFault → String
  | .notFound => "No such file or directory (os error 2)"
  | .notADirectory => "Not a directory (os error 20)"
  | .isADirectory => "Is a directory (os error 21)"
  | .nameTooLong => "File name too long (os error 36)"
  | .nulInPath => "file name contained an unexpected NUL byte"
  | .other reason => reason

/-- Files that can be read and written, as one state. -/
class FileSystem (φ : Type) where
  read : φ → String → Except PathFault ByteArray
  write : φ → String → ByteArray → Except PathFault φ

/-- What one may expect of files: what is written to a path is read from it, and no file has
an empty path. -/
structure FileSystem.Lawful (φ : Type) [FileSystem φ] : Prop where
  read_write (files written : φ) (path : String) (content : ByteArray) :
    write files path content = .ok written → read written path = .ok content
  read_empty (files : φ) (content : ByteArray) : read files "" ≠ .ok content

end DialSelect
