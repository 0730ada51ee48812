/-
# DialSelect.FileTree -- a file system in one directory

A directory of files and directories, seen from inside: relative paths start
there.  What lies outside is not described; a path that leads outside meets a
directory at the root or above the tree, and otherwise nothing.

A path is followed component by component.  Every component but the last has to
lead to a directory, and so has the last if a slash stands behind it.  Of the faults
on the way the first decides.  A file is not written under a name with a slash
behind it, whether something has that name or not.
-/
import DialSelect.FileSystem
import DialSelect.Text.Fields

namespace DialSelect

set_option autoImplicit false

inductive Node where
  | file (content : ByteArray)
  | directory

/-- Files and directories by their components.  The directories above an entry are
there without an entry of their own. -/
structure FileTree where
  entries : List (List String × Node)

/-- Where a path has led so far: inside the tree, or to a directory outside. -/
inductive Place where
  | inside (path : List String)
  | outside
  deriving DecidableEq, Repr

namespace FileTree

/-- The longest name of a file, in bytes. -/
def maxName : Nat := 255

/-- The length in bytes that a path stays below. -/
def maxPath : Nat := 4096

def node? (tree : FileTree) : Place → Option Node
  | .outside => some .directory
  | .inside [] => some .directory
  | .inside path =>
      match tree.entries.find? fun entry => entry.1 = path with
      | some entry => some entry.2
      | none =>
          if tree.entries.any fun entry => path.isPrefixOf entry.1 then some .directory else none

def Place.step (place : Place) (name : String) : Option Place :=
  match place with
  | .outside => if name = ".." then some .outside else none
  | .inside path =>
      if name = ".." then
        if path.isEmpty then some .outside else some (.inside path.dropLast)
      else some (.inside (path ++ [name]))

def advance (tree : FileTree) (place : Place) (name : String) : Except PathFault Place :=
  match tree.node? place with
  | none => .error .notFound
  | some (.file _) => .error .notADirectory
  | some .directory =>
      if maxName < name.utf8ByteSize then .error .nameTooLong
      else
        match Place.step place name with
        | none => .error .notFound
        | some place => .ok place

/-- Follow components from a place; the last one need not lead to anything. -/
def walk (tree : FileTree) (place : Place) : List String → Except PathFault Place
  | [] => .ok place
  | name :: others => do walk tree (← tree.advance place name) others

/-- The components of a path that lead somewhere. -/
def components (path : String) : List String :=
  ((Text.fields '/' path.toList).filter fun part => part ≠ [] ∧ part ≠ ['.']).map String.ofList

/-- A path that names a directory by its end: a slash or a `.` component. -/
def namesDirectory (path : String) : Bool :=
  match (Text.fields '/' path.toList).getLast? with
  | some [] | some ['.'] => true
  | _ => false

/-- A path with a slash behind a last component that is a name. -/
def closesName (path : String) : Bool :=
  path.toList.getLast? = some '/' &&
    match ((Text.fields '/' path.toList).filter fun part => part ≠ []).getLast? with
    | none | some ['.'] | some ['.', '.'] => false
    | some _ => true

def origin (path : String) : Place :=
  if path.toList.head? = some '/' then .outside else .inside []

/-- Follow some of the components of a path.  A path that the system does not take
leads nowhere. -/
def follow (tree : FileTree) (path : String) (names : List String) : Except PathFault Place :=
  if path.toList.contains '\x00' then .error .nulInPath
  else if path = "" then .error .notFound
  else if maxPath ≤ path.utf8ByteSize then .error .nameTooLong
  else tree.walk (origin path) names

def locate (tree : FileTree) (path : String) : Except PathFault Place :=
  tree.follow path (components path)

def read (tree : FileTree) (path : String) : Except PathFault ByteArray := do
  match tree.node? (← tree.locate path) with
  | none => .error .notFound
  | some .directory => .error .isADirectory
  | some (.file content) => if namesDirectory path then .error .notADirectory else .ok content

/-- The tree with a file in the place of whatever the path named. -/
def put (tree : FileTree) (path : List String) (content : ByteArray) : FileTree :=
  ⟨(path, .file content) :: tree.entries.filter fun entry => entry.1 ≠ path⟩

/-- The refusal to write under a name with a slash behind it.  The directory that
would hold the name has to be there; the name itself is not looked up. -/
def refuseClosedName (tree : FileTree) (path : String) : PathFault :=
  match tree.follow path (components path).dropLast with
  | .error fault => fault
  | .ok place =>
      match tree.node? place with
      | none => .notFound
      | some (.file _) => .notADirectory
      | some .directory => .isADirectory

/-- Write a file, in the place of one that is there. -/
def write (tree : FileTree) (path : String) (content : ByteArray) : Except PathFault FileTree := do
  if closesName path then .error (tree.refuseClosedName path)
  else
    let place ← tree.locate path
    match tree.node? place, place with
    | some .directory, _ => .error .isADirectory
    | _, .outside => .error .isADirectory
    | existing, .inside target =>
        if namesDirectory path then
          .error (if existing.isSome then .notADirectory else .notFound)
        else .ok (tree.put target content)

instance : FileSystem FileTree := ⟨read, write⟩

end FileTree

end DialSelect
