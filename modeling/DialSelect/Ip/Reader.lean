/-
# DialSelect.Ip.Reader -- reading an IP address

The grammar, a field at a time:

* IPv4 is four fields between dots, each a decimal number up to 255 of at most
  three digits and without a leading zero;
* a group is one to four hexadecimal digits of either case;
* IPv6 is eight groups between colons, or fewer with exactly one `::` that stands
  for at least one group; a dotted quad may stand for the last two groups of the
  text.

Nothing may precede or follow: blanks and zones are the business of the records.
-/
import DialSelect.Ip.Basic
import DialSelect.Numeral
import DialSelect.Text.Fields

namespace DialSelect

set_option autoImplicit false

def octet? (text : List Char) : Option UInt8 :=
  if text.length ≤ 3 ∧ (text.head? = some '0' → text.length = 1) then
    (Numeral.decimalBelow? 256 text).map UInt8.ofNat
  else none

def Ipv4.read? (text : List Char) : Option Ipv4 :=
  match Text.fields '.' text with
  | [a, b, c, d] => do return ⟨← octet? a, ← octet? b, ← octet? c, ← octet? d⟩
  | _ => none

def group? (text : List Char) : Option UInt16 :=
  if text.length ≤ 4 then (Numeral.digits? Numeral.hexDigit? 16 text).map UInt16.ofNat else none

def groups? : List (List Char) → Option (List UInt16)
  | [] => some []
  | field :: others => do return (← group? field) :: (← groups? others)

/-- Read every field as a group, the last one as a group or as a dotted quad that
counts for two. -/
def groupsOrQuad? : List (List Char) → Option (List UInt16)
  | [] => some []
  | [field] =>
      match Ipv4.read? field with
      | some quad => some [quad.high, quad.low]
      | none => (group? field).map ([·])
  | field :: others => do return (← group? field) :: (← groupsOrQuad? others)

/-- The text before and after the first `::`. -/
def cutDoubleColon? : List Char → Option (List Char × List Char)
  | ':' :: ':' :: rest => some ([], rest)
  | c :: rest => (cutDoubleColon? rest).map fun parts => (c :: parts.1, parts.2)
  | [] => none

/-- The fields between colons on one side of `::`, where nothing is no field. -/
def colonFields : List Char → List (List Char)
  | [] => []
  | text => Text.fields ':' text

def Ipv6.read? (text : List Char) : Option Ipv6 :=
  match cutDoubleColon? text with
  | none => do Ipv6.ofGroups? (← groupsOrQuad? (Text.fields ':' text))
  | some (front, back) => do
      let before ← groups? (colonFields front)
      let after ← groupsOrQuad? (colonFields back)
      if before.length + after.length ≤ 7 then
        Ipv6.ofGroups? (before ++ List.replicate (8 - (before.length + after.length)) 0 ++ after)
      else none

def Ip.read? (text : List Char) : Option Ip :=
  match Ipv4.read? text with
  | some ip => some (.v4 ip)
  | none => (Ipv6.read? text).map .v6

end DialSelect
