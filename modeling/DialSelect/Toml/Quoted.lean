/-
# DialSelect.Toml.Quoted -- quoted texts in a document

Four kinds: basic and literal texts, each on one line or on several.  A quoted
text is read character by character.  In the basic kinds a backslash begins an
escape; the state of the escape in progress is the argument `Escape`.

The kinds on several lines drop a line break right behind the opening quotes and
keep every other one as it is written.  They may hold up to two quotes in a row,
also right before the closing ones, and in the basic kind a backslash at the end
of a line swallows all white space behind it.

A line ends in a line feed, with or without a carriage return before it.  The
readers take a carriage return for a part of a line break wherever they meet it:
`Document` refuses a text in which one stands alone.
-/
import DialSelect.Numeral

namespace DialSelect.Toml

set_option autoImplicit false

def isSpace (c : Char) : Bool :=
  c = ' ' || c = '\t'

def isBreak (c : Char) : Bool :=
  c = '\n' || c = '\r'

/-- A character that may stand in a text or a comment: a tab, or no control
character. -/
def isTextChar (c : Char) : Bool :=
  c = '\t' || (0x20 ≤ c.toNat && c.toNat ≠ 0x7F)

def prepend (c : Char) (read : Option (List Char × List Char)) : Option (List Char × List Char) :=
  read.map fun parts => (c :: parts.1, parts.2)

/-! ## Escapes -/

/-- How far an escape has been read. -/
inductive Escape where
  /-- No escape is open. -/
  | closed
  /-- A backslash was read. -/
  | begun
  /-- That many hexadecimal digits are still to come, one at least. -/
  | hex (left value : Nat)
  /-- A backslash and white space were read; a line break has to follow. -/
  | lineEnd
  /-- A backslash at the end of a line was read; white space is swallowed. -/
  | swallow
  deriving DecidableEq, Repr

def escaped? : Char → Option Char
  | 'b' => some '\x08'
  | 't' => some '\t'
  | 'n' => some '\n'
  | 'f' => some '\x0C'
  | 'r' => some '\r'
  | 'e' => some '\x1B'
  | '"' => some '"'
  | '\\' => some '\\'
  | _ => none

/-- The number of hexadecimal digits behind the letter of an escape. -/
def escapeDigits? : Char → Option Nat
  | 'x' => some 2
  | 'u' => some 4
  | 'U' => some 8
  | _ => none

/-- The character with a code point, if there is one. -/
def charOf? (code : Nat) : Option Char :=
  if code.isValidChar then some (Char.ofNat code) else none

/-- What a character does to an open escape: it gives a character of the text, it
goes on with the escape, or it is refused. -/
def Escape.step (escape : Escape) (c : Char) : Option (Option Char × Escape) :=
  match escape with
  | .begun =>
      match escaped? c with
      | some d => some (some d, .closed)
      | none => (escapeDigits? c).map fun count => (none, .hex count 0)
  | .hex left value =>
      match Numeral.hexDigit? c with
      | none => none
      | some d =>
          if left ≤ 1 then (charOf? (value * 16 + d)).map fun e => (some e, .closed)
          else some (none, .hex (left - 1) (value * 16 + d))
  | _ => none

def emit (c : Option Char) (read : Option (List Char × List Char)) :
    Option (List Char × List Char) :=
  match c with
  | some c => prepend c read
  | none => read

/-! ## Quoted texts -/

/-- The rest of a basic text on one line, and what stands behind it. -/
def basicText (escape : Escape) : List Char → Option (List Char × List Char)
  | [] => none
  | c :: rest =>
      if escape = .closed then
        if c = '"' then some ([], rest)
        else if c = '\\' then basicText .begun rest
        else if isTextChar c then prepend c (basicText .closed rest)
        else none
      else
        match escape.step c with
        | none => none
        | some (out, next) => emit out (basicText next rest)

/-- The rest of a literal text on one line, and what stands behind it. -/
def literalText : List Char → Option (List Char × List Char)
  | [] => none
  | c :: rest =>
      if c = '\'' then some ([], rest)
      else if isTextChar c then prepend c (literalText rest)
      else none

/-- What closes a text on several lines: three quotes, with up to two quotes of
the text before them. -/
def closing? (quote : Char) (text : List Char) : Option (List Char × List Char) :=
  let quotes := (text.takeWhile (· = quote)).length
  if 3 ≤ quotes then
    let inside := min (quotes - 3) 2
    some (List.replicate inside quote, text.drop (inside + 3))
  else none

/-- The rest of a basic text on several lines, and what stands behind it. -/
def basicLines (escape : Escape) : List Char → Option (List Char × List Char)
  | [] => none
  | c :: rest =>
      let plain :=
        match closing? '"' (c :: rest) with
        | some closed => some closed
        | none =>
            if c = '\\' then basicLines .begun rest
            else if isBreak c || isTextChar c then prepend c (basicLines .closed rest)
            else none
      match escape with
      | .closed => plain
      | .swallow => if isBreak c || isSpace c then basicLines .swallow rest else plain
      | .lineEnd =>
          if c = '\n' then basicLines .swallow rest
          else if c = '\r' || isSpace c then basicLines .lineEnd rest
          else none
      | .begun =>
          if c = '\n' then basicLines .swallow rest
          else if c = '\r' || isSpace c then basicLines .lineEnd rest
          else
            match escape.step c with
            | none => none
            | some (out, next) => emit out (basicLines next rest)
      | .hex _ _ =>
          match escape.step c with
          | none => none
          | some (out, next) => emit out (basicLines next rest)

/-- The rest of a literal text on several lines, and what stands behind it. -/
def literalLines : List Char → Option (List Char × List Char)
  | [] => none
  | c :: rest =>
      match closing? '\'' (c :: rest) with
      | some closed => some closed
      | none => if isBreak c || isTextChar c then prepend c (literalLines rest) else none

/-- A text without the line break it starts with, if it does. -/
def dropLineBreak : List Char → List Char
  | '\n' :: rest => rest
  | '\r' :: '\n' :: rest => rest
  | text => text

def quotedText? : List Char → Option (List Char × List Char)
  | '"' :: rest => basicText .closed rest
  | '\'' :: rest => literalText rest
  | _ => none

def text? : List Char → Option (List Char × List Char)
  | '"' :: '"' :: '"' :: rest => basicLines .closed (dropLineBreak rest)
  | '\'' :: '\'' :: '\'' :: rest => literalLines (dropLineBreak rest)
  | text => quotedText? text

end DialSelect.Toml
