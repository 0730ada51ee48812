/-
# DialSelect.LogFilter.Pattern -- what is wrong with a pattern

A pattern is a sequence of symbols, classes and groups, each of them perhaps
repeated, or several such sequences with bars between them.  A group can have a
name, which no other group has, and can change the mode inside; a change of the
mode on its own lasts up to the end of the group around it.

A pattern has a fault if it is no pattern, if one of its symbols may not stand where
it stands, or if it nests too deep; and otherwise, if it asks for the begin or end
of a word in a wide pattern.

How often something is repeated cannot be given in braces here: a pattern stands in
braces itself, and ends at the first closing one.
-/
import DialSelect.LogFilter.Pattern.Class
import DialSelect.Text.Alphanumeric

namespace DialSelect

set_option autoImplicit false

inductive PatternFault where
  | malformed
  /-- The begin or end of a word is asked for where no table says what a word is. -/
  | wordPlace
  deriving DecidableEq, Repr

def PatternFault.message : PatternFault → String
  | .malformed => "error building NFA"
  | .wordPlace =>
      "unsupported regex feature for DFAs: cannot build DFAs for regexes with Unicode word " ++
        "boundaries; switch to ASCII word boundaries, or heuristically enable Unicode word " ++
        "boundaries or use a different regex engine"

namespace Pattern

/-- What has been read of a pattern, outside of its groups. -/
structure Progress where
  mode : Mode
  /-- The names of groups. -/
  names : List (List Char)
  /-- Whether the begin or end of a word is asked for in a wide part. -/
  wordPlace : Bool
  deriving DecidableEq, Repr

/-- What has been read of a group: the nesting of its finished branches and of the
items of the last one, the latest first. -/
structure Group where
  branches : List Nat
  items : List Nat
  /-- Whether the latest item can be repeated. -/
  repeatable : Bool
  deriving DecidableEq, Repr

namespace Group

def empty : Group := ⟨[], [], false⟩

def item (group : Group) (depth : Nat) : Group :=
  ⟨group.branches, depth :: group.items, true⟩

/-- The group with another change of the mode, which cannot be repeated. -/
def setting (group : Group) : Group :=
  ⟨group.branches, 0 :: group.items, false⟩

def branch (group : Group) : Group :=
  ⟨nesting group.items :: group.branches, [], false⟩

/-- The group with its latest item repeated. -/
def repeated? (group : Group) : Option Group :=
  match group.repeatable, group.items with
  | true, depth :: items => some ⟨group.branches, (1 + depth) :: items, true⟩
  | _, _ => none

def depth (group : Group) : Nat :=
  nesting (nesting group.items :: group.branches)

end Group

/-! ## Groups -/

/-- The mode with one of its settings changed; the letters of other settings change
nothing. -/
def Mode.change (mode : Mode) (on : Bool) : Char → Mode
  | 'i' => ⟨on, mode.wide, mode.spaced⟩
  | 'u' => ⟨mode.caseless, on, mode.spaced⟩
  | 'x' => ⟨mode.caseless, mode.wide, on⟩
  | _ => mode

/-- The mode with the settings changed whose letters are given: on in front of a
hyphen, off behind it.  Nothing stands there twice, and the hyphen not at the end. -/
def Mode.changes? (mode : Mode) (letters : List Char) : Option Mode :=
  if letters.all "imsUuRx-".toList.contains && decide letters.Nodup &&
      letters.getLast? ≠ some '-' then
    let raised := (letters.takeWhile (· ≠ '-')).foldl (fun mode c => mode.change true c) mode
    some ((letters.dropWhile (· ≠ '-')).foldl (fun mode c => mode.change false c) raised)
  else none

def isGroupName : List Char → Bool
  | [] => false
  | first :: rest =>
      (first = '_' || Text.isLetter first) &&
        rest.all fun c => "_.[]".toList.contains c || Text.isAlphanumeric c

inductive Opening where
  /-- A change of the mode up to the end of the group around it. -/
  | setting (mode : Mode)
  | group (mode : Mode) (name : Option (List Char))
  deriving DecidableEq, Repr

/-- Read the name of a group and the bracket behind it. -/
def named? (mode : Mode) (text : List Char) : Option (Opening × List Char) :=
  let name := text.takeWhile (· ≠ '>')
  match text.dropWhile (· ≠ '>') with
  | _ :: rest => if isGroupName name then some (.group mode (some name), rest) else none
  | [] => none

/-- Read what stands behind the parenthesis of a group, up to its first item. -/
def opening? (mode : Mode) (text : List Char) : Option (Opening × List Char) :=
  match mode.skip text with
  | '?' :: 'P' :: '<' :: rest | '?' :: '<' :: rest => named? mode rest
  | '?' :: rest => do
      let letters := rest.takeWhile fun c => c ≠ ':' && c ≠ ')'
      let changed ← mode.changes? letters
      match rest.drop letters.length with
      | ':' :: rest => return (.group changed none, rest)
      | ')' :: rest => if letters.isEmpty then none else return (.setting changed, rest)
      | _ => none
  | text => some (.group mode none, text)

/-! ## Patterns -/

/-- The pattern with the name of another group, if no group has it yet. -/
def Progress.addName? (progress : Progress) : Option (List Char) → Option Progress
  | none => some progress
  | some name =>
      if progress.names.contains name then none
      else some ⟨progress.mode, name :: progress.names, progress.wordPlace⟩

def Progress.inMode (progress : Progress) (mode : Mode) : Progress :=
  ⟨mode, progress.names, progress.wordPlace⟩

/-- The pattern with another symbol, if it may stand there. -/
def Progress.add? (progress : Progress) (symbol : Symbol) : Option Progress :=
  if progress.mode.admits symbol then
    some ⟨progress.mode, progress.names,
      progress.wordPlace || (progress.mode.wide && symbol = .place true)⟩
  else none

/-- The text behind the mark of a repetition that is to be short. -/
def afterShort : List Char → List Char
  | '?' :: rest => rest
  | text => text

/-- Read the rest of a group, up to its parenthesis or to the end of the text, behind
what has been read of it: the nesting of its branches, and the text behind it. -/
def rest? : Nat → Bool → Progress → Group → List Char → Option (Progress × Nat × List Char)
  | 0, _, _, _, _ => none
  | fuel + 1, nested, progress, group, text => do
      match progress.mode.skip text with
      | [] => if nested then none else return (progress, group.depth, [])
      | ')' :: rest => if nested then return (progress, group.depth, rest) else none
      | '|' :: rest => rest? fuel nested progress group.branch rest
      | '*' :: rest | '+' :: rest | '?' :: rest =>
          rest? fuel nested progress (← group.repeated?) (afterShort rest)
      | '\x7b' :: _ => none
      | '[' :: rest =>
          let (depth, rest) ← class? progress.mode rest
          rest? fuel nested progress (group.item depth) rest
      | '(' :: rest =>
          match ← opening? progress.mode rest with
          | (.setting mode, rest) => rest? fuel nested (progress.inMode mode) group.setting rest
          | (.group mode name, rest) =>
              let begun := (← progress.addName? name).inMode mode
              let (ended, depth, rest) ← rest? fuel true begun .empty rest
              rest? fuel nested (ended.inMode progress.mode) (group.item (1 + depth)) rest
      | text =>
          let (symbol, rest) ← symbol? progress.mode text
          rest? fuel nested (← progress.add? symbol) (group.item 0) rest

/-- The parts of a pattern stand at most this deep in one another. -/
def maxDepth : Nat := 250

def fault? (text : List Char) : Option PatternFault :=
  match rest? (text.length + 1) false ⟨.standard, [], false⟩ .empty text with
  | some (progress, depth, _) =>
      if maxDepth < depth then some .malformed
      else if progress.wordPlace then some .wordPlace
      else none
  | none => some .malformed

end Pattern

end DialSelect
