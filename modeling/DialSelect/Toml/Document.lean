/-
# DialSelect.Toml.Document -- reading a configuration document

A document is read in two steps.  `statements?` reads its lines: headers and
assignments, each with the path it names.  `Statement.apply` then builds the table
under construction, and closing that gives the tree.

Arrays and inline tables nest up to a fixed depth, so the reader of values is
recursive in the depth that is left (`value?`).  The readers of their items have
fuel; the length of the text suffices, because every item takes up a character.

A byte order mark may stand in front, and a line may end in a carriage return and
a line feed; a carriage return stands nowhere else.
-/
import DialSelect.Toml.Draft
import DialSelect.Toml.Scalar

namespace DialSelect.Toml

set_option autoImplicit false

/-! ## White space and comments -/

def skipSpaces (text : List Char) : List Char :=
  text.dropWhile isSpace

/-- The text behind spaces, line breaks and comments; `comment` says whether a
comment is open. -/
def skipGap (comment : Bool) : List Char → Option (List Char)
  | [] => some []
  | c :: rest =>
      if comment then
        if c = '\n' then skipGap false rest
        else if c = '\r' || isTextChar c then skipGap true rest
        else none
      else if isBreak c || isSpace c then skipGap false rest
      else if c = '#' then skipGap true rest
      else some (c :: rest)

/-- The text from the end of a line on which a statement was read; only white space
and a comment may stand before that end. -/
def endLine (text : List Char) : Option (List Char) :=
  match skipSpaces text with
  | [] => some []
  | c :: rest => if isBreak c || c = '#' then some (c :: rest) else none

/-- Whether every carriage return has a line feed behind it. -/
def returnsPaired : List Char → Bool
  | [] => true
  | '\r' :: '\n' :: rest => returnsPaired rest
  | c :: rest => c ≠ '\r' && returnsPaired rest

/-! ## Names -/

/-- A character of a name without quotes. -/
def isBareChar (c : Char) : Bool :=
  c.isAlphanum || c = '_' || c = '-'

def key? (text : List Char) : Option (String × List Char) :=
  match quotedText? text with
  | some (key, rest) => some (String.ofList key, rest)
  | none =>
      let bare := text.takeWhile isBareChar
      if bare.isEmpty then none else some (String.ofList bare, text.dropWhile isBareChar)

/-- Read a dotted name of at most that many parts, and the white space behind it. -/
def path? : Nat → List Char → Option (List String × List Char)
  | 0, _ => none
  | parts + 1, text => do
      let (key, rest) ← key? text
      match skipSpaces rest with
      | '.' :: rest =>
          let (path, rest) ← path? parts (skipSpaces rest)
          return (key :: path, rest)
      | rest => return ([key], rest)

/-- A dotted name has at most this many parts. -/
def maxParts : Nat := 80

/-! ## Values -/

/-- Arrays and inline tables stand at most this deep in one another. -/
def maxDepth : Nat := 80

/-- Read the items of an array up to its end. -/
def items? (item? : List Char → Option (Value × List Char)) :
    Nat → List Char → Option (List Value × List Char)
  | 0, _ => none
  | fuel + 1, text => do
      match ← skipGap false text with
      | ']' :: rest => return ([], rest)
      | text =>
          let (item, rest) ← item? text
          match ← skipGap false rest with
          | ',' :: rest =>
              let (items, rest) ← items? item? fuel rest
              return (item :: items, rest)
          | ']' :: rest => return ([item], rest)
          | _ => none

/-- Read the assignments of an inline table up to its end.  White space, line breaks
and comments may stand on both sides of the equals sign. -/
def assignments? (item? : List Char → Option (Value × List Char)) :
    Nat → List Char → Option (List (List String × Value) × List Char)
  | 0, _ => none
  | fuel + 1, text => do
      match ← skipGap false text with
      | '\x7d' :: rest => return ([], rest)
      | text =>
          let (path, rest) ← path? maxParts text
          match ← skipGap false rest with
          | '=' :: rest =>
              let (value, rest) ← item? (← skipGap false rest)
              match ← skipGap false rest with
              | ',' :: rest =>
                  let (others, rest) ← assignments? item? fuel rest
                  return ((path, value) :: others, rest)
              | '\x7d' :: rest => return ([(path, value)], rest)
              | _ => none
          | _ => none

def inlineTable? (assignments : List (List String × Value)) : Option Value := do
  let entries ← assignments.foldlM (fun entries assignment =>
    Entries.assign assignment.2 assignment.1 entries) ([] : Entries)
  return .table (closeEntries entries)

/-- Read a value that holds no others. -/
def plainValue? (text : List Char) : Option (Value × List Char) :=
  match text with
  | '"' :: _ | '\'' :: _ =>
      (text? text).map fun read => (.text (String.ofList read.1), read.2)
  | _ => scalar? text

/-- Read a value in which at most that many arrays and inline tables stand in one
another. -/
def value? : Nat → List Char → Option (Value × List Char)
  | 0, text => plainValue? text
  | depth + 1, text =>
      match text with
      | '[' :: rest =>
          (items? (value? depth) (rest.length + 1) rest).map fun read => (.array read.1, read.2)
      | '\x7b' :: rest => do
          let (assignments, rest) ← assignments? (value? depth) (rest.length + 1) rest
          return (← inlineTable? assignments, rest)
      | _ => plainValue? text

/-! ## Statements -/

/-- A line of a document that says something. -/
inductive Statement where
  /-- The header of a table. -/
  | table (path : List String)
  /-- The header of the next table of an array. -/
  | item (path : List String)
  /-- An assignment in the table of the last header. -/
  | assign (path : List String) (value : Value)

/-- Read the path of a header and what has to close it. -/
def header? (closing text : List Char) : Option (List String × List Char) := do
  let (path, rest) ← path? maxParts (skipSpaces text)
  return (path, ← endLine (← Text.stripLead? closing rest))

/-- Read one statement, up to the end of its line. -/
def statement? (text : List Char) : Option (Statement × List Char) :=
  match text with
  | '[' :: '[' :: rest => do
      let (path, rest) ← header? [']', ']'] rest
      return (.item path, rest)
  | '[' :: rest => do
      let (path, rest) ← header? [']'] rest
      return (.table path, rest)
  | text => do
      let (path, rest) ← path? maxParts text
      match rest with
      | '=' :: rest =>
          let (value, rest) ← value? maxDepth (skipSpaces rest)
          return (.assign path value, ← endLine rest)
      | _ => none

/-- Read the statements of a text, with empty lines and comments between them. -/
def statementsFrom? : Nat → List Char → Option (List Statement)
  | 0, _ => none
  | fuel + 1, text => do
      match ← skipGap false text with
      | [] => return []
      | text =>
          let (statement, rest) ← statement? text
          return statement :: (← statementsFrom? fuel rest)

def statements? (text : List Char) : Option (List Statement) :=
  let text := (Text.stripLead? ['\uFEFF'] text).getD text
  if returnsPaired text then statementsFrom? (text.length + 1) text else none

/-! ## The tree -/

/-- A document under construction: its entries and the path of the last header. -/
structure Progress where
  entries : Entries
  path : List String

/-- The path of a header, taken apart into the tables it passes through and its
own name. -/
def splitLast? (path : List String) : Option (List String × String) :=
  path.getLast?.map fun key => (path.dropLast, key)

def Statement.apply (progress : Progress) : Statement → Option Progress
  | .table path => do
      let (outer, key) ← splitLast? path
      return ⟨← Entries.within (Entries.openTable key) outer progress.entries, path⟩
  | .item path => do
      let (outer, key) ← splitLast? path
      return ⟨← Entries.within (Entries.openItem key) outer progress.entries, path⟩
  | .assign path value => do
      return ⟨← Entries.within (Entries.assign value path) progress.path progress.entries,
        progress.path⟩

def read? (text : List Char) : Option Table := do
  let statements ← statements? text
  let progress ← statements.foldlM Statement.apply ⟨[], []⟩
  return closeEntries progress.entries

end DialSelect.Toml
