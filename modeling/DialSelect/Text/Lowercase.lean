/-
# DialSelect.Text.Lowercase -- the full lower-case mapping

Network names, policy names and output formats are compared in lower case, and a
rejected limit is quoted in lower case, so the mapping is the full one of the
Unicode standard: letter by letter, with the capital dotted I giving two
characters, and with the one rule that looks at its surroundings -- a capital
sigma at the end of a word becomes the final form.

A capital sigma ends a word when, skipping characters that are case-ignorable,
a cased letter stands before it and none stands after it.  A colon is
case-ignorable.
-/
import DialSelect.Text.Blank
import DialSelect.Text.CaseRanges

namespace DialSelect.Text

set_option autoImplicit false

def isCased (c : Char) : Bool :=
  inRanges casedRanges c.toNat

def isCaseIgnorable (c : Char) : Bool :=
  inRanges caseIgnorableRanges c.toNat

def lower (c : Char) : List Char :=
  if c = '\u0130' then ['i', '\u0307']
  else
    match lowerRuns.findSome? fun run => run.map? c.toNat with
    | some code => [Char.ofNat code]
    | none => [c]

/-- The first character that is not case-ignorable is a cased letter. -/
def casedAhead (text : List Char) : Bool :=
  match text.dropWhile isCaseIgnorable with
  | [] => false
  | c :: _ => isCased c

/-- Lower case of a text that stands after `before`, given in reverse. -/
def lowercaseAfter (before : List Char) : List Char → List Char
  | [] => []
  | c :: rest =>
      let image :=
        if c = '\u03A3' then
          if casedAhead before && !casedAhead rest then ['\u03C2'] else ['\u03C3']
        else lower c
      image ++ lowercaseAfter (c :: before) rest

/-- The full lower-case mapping of a text. -/
def lowercase (text : List Char) : List Char :=
  lowercaseAfter [] text

end DialSelect.Text
