/-
# DialSelect.Toml.Scalar -- unquoted scalars in a document

An unquoted scalar is a run of words with white space between them, such as a date
with its time behind a single space.  It ends at a character that belongs to the
document, and what it is depends on the whole run.
-/
import DialSelect.Toml.Datetime
import DialSelect.Toml.Number
import DialSelect.Toml.Quoted

namespace DialSelect.Toml

set_option autoImplicit false

/-- A character that ends a word of an unquoted scalar. -/
def endsWord (c : Char) : Bool :=
  isSpace c || isBreak c || c = '#' || c = ',' || c = '=' || c = '[' || c = ']' ||
    c = '\x7b' || c = '\x7d'

def isWordChar (c : Char) : Bool :=
  !endsWord c

/-- Whether another word stands behind white space.  A quote begins a text, not a
word. -/
def hasNextWord (text : List Char) : Bool :=
  (text.dropWhile isSpace).head?.any fun c => isWordChar c && c ≠ '"' && c ≠ '\''

/-- The run of words that a text begins with. -/
def words : List Char → List Char
  | [] => []
  | c :: rest =>
      if isWordChar c || (isSpace c && hasNextWord rest) then c :: words rest else []

/-- What an unquoted run of characters stands for. -/
def scalarOf? (run : List Char) : Option Value :=
  if run = "true".toList ∨ run = "false".toList then some (.other .boolean)
  else if isDatetime run then some (.other .datetime)
  else number? run

def scalar? (text : List Char) : Option (Value × List Char) :=
  let run := words text
  (scalarOf? run).map (·, text.drop run.length)

end DialSelect.Toml
