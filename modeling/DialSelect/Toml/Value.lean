/-
# DialSelect.Toml.Value -- configuration documents as trees

A document is a table: names with values, in the order they were written.  Text
and whole numbers are kept as values; of the other scalars only the kind is kept,
because no setting has one of those kinds.
-/

namespace DialSelect.Toml

set_option autoImplicit false

/-- The scalar kinds that no setting has. -/
inductive OtherKind where
  | float
  | boolean
  | datetime
  /-- Written like a whole number, but naming none. -/
  | numeral
  deriving DecidableEq, Repr

inductive Value where
  | text (value : String)
  | integer (value : Int)
  | other (kind : OtherKind)
  | array (items : List Value)
  | table (entries : List (String × Value))
  deriving Repr

abbrev Table := List (String × Value)

/-- Every name of the table is one of `allowed`. -/
def knownBy (allowed : List String) (table : Table) : Bool :=
  table.all fun entry => allowed.contains entry.1

def Value.text? : Value → Option String
  | .text value => some value
  | _ => none

def Value.texts? : Value → Option (List String)
  | .array items => items.mapM Value.text?
  | _ => none

def Value.integer? : Value → Option Int
  | .integer value => some value
  | _ => none

end DialSelect.Toml
