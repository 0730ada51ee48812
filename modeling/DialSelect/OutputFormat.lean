/-
# DialSelect.OutputFormat -- how a selection is written

The command line takes the exact names; a configuration file takes them in any
case, with blanks around them, and `plain` as a second name of `text`.
-/
import DialSelect.Text.Lowercase

namespace DialSelect

set_option autoImplicit false

inductive OutputFormat where
  /-- One address a line. -/
  | text
  /-- One JSON object. -/
  | json
  deriving DecidableEq, Repr

namespace OutputFormat

def name : OutputFormat → String
  | .text => "text"
  | .json => "json"

/-- The format with exactly this name. -/
def ofName? (name : String) : Option OutputFormat :=
  match name with
  | "text" => some .text
  | "json" => some .json
  | _ => none

/-- Read the name of a format in a configuration file. -/
def read? (text : String) : Option OutputFormat :=
  let form := String.ofList (Text.lowercase (Text.trim text.toList))
  if form = "plain" then some .text else ofName? form

theorem ofName?_name (format : OutputFormat) : ofName? format.name = some format := by
  cases format <;> rfl

end OutputFormat

end DialSelect
