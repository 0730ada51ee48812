/-
# DialSelect.Policy.Datum -- policies in structured data

In structured data a policy is a text.  Any other kind of value is refused with a
description of what was met; a text that names no policy is refused as
`Policy.read` refuses it.
-/
import DialSelect.Decimal
import DialSelect.Policy.Basic

namespace DialSelect

set_option autoImplicit false

/-- A value of structured data, as far as a refusal tells values apart. -/
inductive Datum where
  | null
  | boolean (value : Bool)
  | integer (value : Int)
  | real (value : Float)
  | text (value : String)
  | sequence
  | map

def Datum.describe : Datum → String
  | .null => "null"
  | .boolean value => "boolean `" ++ (if value then "true" else "false") ++ "`"
  | .integer value => "integer `" ++ toString value ++ "`"
  | .real value => "floating point `" ++ String.ofList (Decimal.print value) ++ "`"
  | .text value => "string \"" ++ value ++ "\""
  | .sequence => "sequence"
  | .map => "map"

inductive DatumError where
  | notAText (met : Datum)
  | policy (error : PolicyError)

def DatumError.message : DatumError → String
  | .notAText met => "invalid type: " ++ met.describe ++ ", expected a string"
  | .policy error => error.message

def Policy.ofDatum : Datum → Except DatumError Policy
  | .text value => (Policy.read value).mapError .policy
  | met => .error (.notAText met)

/-- The value that stands for a policy: its canonical name. -/
def Policy.toDatum (policy : Policy) : Datum :=
  .text policy.name

end DialSelect
