/-
# DialSelect.Selection -- the result of a run

A selection tells what was asked and what is left to try, in dial order.  As text
it is one address a line; as JSON it is one object on one line.
-/
import DialSelect.OutputFormat
import DialSelect.Policy.Basic
import DialSelect.Text.Quoted

namespace DialSelect

set_option autoImplicit false

structure Selection where
  network : Network
  /-- The number of candidates. -/
  input : Nat
  policy : List Policy
  /-- The addresses left to try, in dial order. -/
  selected : List String
  deriving DecidableEq, Repr

namespace Selection

/-- Nothing is left to try. -/
def isEmpty (selection : Selection) : Bool :=
  selection.selected.isEmpty

/-- One address a line, without a line feed at the end. -/
def renderText (selection : Selection) : List Char :=
  Text.joinWith ['\n'] (selection.selected.map String.toList)

def renderList (texts : List String) : List Char :=
  '[' :: Text.joinWith [','] (texts.map fun text => Text.quote text.toList) ++ [']']

def renderMember (name : String) (value : List Char) : List Char :=
  Text.quote name.toList ++ ':' :: value

def renderJson (selection : Selection) : List Char :=
  '\x7b' :: Text.joinWith [','] [
    renderMember "network" (Text.quote selection.network.name.toList),
    renderMember "input" (Numeral.decimal selection.input),
    renderMember "policy" (renderList (selection.policy.map Policy.name)),
    renderMember "selected" (renderList selection.selected)] ++ ['\x7d']

def render (selection : Selection) : OutputFormat → String
  | .text => String.ofList selection.renderText
  | .json => String.ofList selection.renderJson

end Selection

end DialSelect
