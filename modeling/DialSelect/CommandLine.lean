/-
# DialSelect.CommandLine -- reading the command line

The arguments are read from left to right.  An argument is an option, a group of
short options, the word of a subcommand, or an address.  An option with a value
takes it from the same argument (`--x=v`, `-xv`, `-x=v`) or from the next one; a
value from the next argument waits until the argument behind it is read, so the
first of two faults is the one that is met first in that order:

* an unknown option is a fault at once, even while a value is waiting;
* a value that is written in the argument of a plain flag is one, too;
* everything else first settles the value that is waiting -- a missing value, then
  a second value for an option that takes one, then a value that cannot be read.

The words `init` and `help` are subcommands wherever a new item may begin, which is
not right behind an address: there the list of addresses goes on.  After `--`
everything is an address.
-/
import DialSelect.Network
import DialSelect.Numeral
import DialSelect.OutputFormat
import DialSelect.Text.Fields

namespace DialSelect

set_option autoImplicit false

structure CommandLine where
  /-- Where to write a configuration template, if that is the request. -/
  template : Option String
  addrs : List String
  network : Option Network
  policies : List String
  seed : Option Nat
  format : Option OutputFormat
  config : Option String
  verbose : Bool
  deriving DecidableEq, Repr

namespace CommandLine

def empty : CommandLine := ⟨none, [], none, [], none, none, none, false⟩

/-- The template's path when none is given. -/
def templatePath : String := "addr-pick.toml"

inductive Fault where
  /-- An option or argument that does not exist. -/
  | unknownArgument
  /-- A value that is missing, empty or none of the allowed ones. -/
  | invalidValue
  /-- A second value for an option that takes one. -/
  | argumentConflict
  /-- A value that cannot be read. -/
  | unreadableValue
  /-- A value for a flag. -/
  | unexpectedValue
  /-- A subcommand that does not exist. -/
  | unknownSubcommand
  deriving DecidableEq, Repr

/-- What ends the reading of a command line early. -/
inductive Stop where
  | help
  | version
  | fault (fault : Fault)
  deriving DecidableEq, Repr

/-- The options with a value. -/
inductive Setting where
  | network
  | policy
  | seed
  | format
  | config
  deriving DecidableEq, Repr

/-- The options without a value. -/
inductive Flag where
  | verbose
  | help
  | version
  deriving DecidableEq, Repr

inductive Switch where
  | setting (setting : Setting)
  | flag (flag : Flag)
  deriving DecidableEq, Repr

namespace Switch

def ofLong? (name : String) : Option Switch :=
  match name with
  | "network" => some (.setting .network)
  | "policy" => some (.setting .policy)
  | "seed" => some (.setting .seed)
  | "format" => some (.setting .format)
  | "config" => some (.setting .config)
  | "verbose" => some (.flag .verbose)
  | "help" => some (.flag .help)
  | "version" => some (.flag .version)
  | _ => none

def ofShort? (name : Char) : Option Switch :=
  match name with
  | 'n' => some (.setting .network)
  | 'p' => some (.setting .policy)
  | 'c' => some (.setting .config)
  | 'v' => some (.flag .verbose)
  | 'h' => some (.flag .help)
  | 'V' => some (.flag .version)
  | _ => none

end Switch

/-! ## The form of an argument -/

/-- What an argument looks like. -/
inductive Form where
  /-- The two hyphens behind which everything is an address. -/
  | separator
  /-- A long option, perhaps with a value. -/
  | long (name : String) (value : Option String)
  /-- A group of short options, at least one. -/
  | short (first : Char) (others : List Char)
  /-- Anything else, a single hyphen included. -/
  | plain
  deriving DecidableEq, Repr

def Form.of (arg : String) : Form :=
  match arg.toList with
  | ['-', '-'] => .separator
  | '-' :: '-' :: text =>
      match Text.cut? '=' text with
      | none => .long (String.ofList text) none
      | some (name, value) => .long (String.ofList name) (some (String.ofList value))
  | '-' :: first :: others => .short first others
  | _ => .plain

/-- The value in a group of short options behind the name of an option: an equals
sign in front of it is dropped. -/
def attached (text : List Char) : String :=
  match text with
  | '=' :: value => String.ofList value
  | value => String.ofList value

/-! ## Settling values -/

/-- Set an option to a value, unless it has one or the value cannot be read. -/
def set (line : CommandLine) (setting : Setting) (value : String) : Except Stop CommandLine :=
  match setting with
  | .policy => .ok { line with policies := line.policies ++ [value] }
  | .network =>
      if line.network.isSome then .error (.fault .argumentConflict)
      else
        match Network.ofName? value with
        | some network => .ok { line with network := some network }
        | none => .error (.fault .invalidValue)
  | .format =>
      if line.format.isSome then .error (.fault .argumentConflict)
      else
        match OutputFormat.ofName? value with
        | some format => .ok { line with format := some format }
        | none => .error (.fault .invalidValue)
  | .seed =>
      if line.seed.isSome then .error (.fault .argumentConflict)
      else
        match Numeral.readCount value.toList with
        | .ok seed => .ok { line with seed := some seed }
        | .error _ => .error (.fault .unreadableValue)
  | .config =>
      if line.config.isSome then .error (.fault .argumentConflict)
      else if value = "" then .error (.fault .invalidValue)
      else .ok { line with config := some value }

def raise (line : CommandLine) (flag : Flag) : Except Stop CommandLine :=
  match flag with
  | .help => .error .help
  | .version => .error .version
  | .verbose =>
      if line.verbose then .error (.fault .argumentConflict)
      else .ok { line with verbose := true }

/-- What the arguments read so far say: the settled part, the option that waits for
a value or holds one that is not settled, and whether the last argument was an
address. -/
structure Progress where
  line : CommandLine
  waiting : Option (Setting × Option String)
  listing : Bool
  deriving DecidableEq, Repr

namespace Progress

def start : Progress := ⟨.empty, none, false⟩

/-- The option whose value has to come next. -/
def wants? (progress : Progress) : Option Setting :=
  match progress.waiting with
  | some (setting, none) => some setting
  | _ => none

def settle (progress : Progress) : Except Stop CommandLine :=
  match progress.waiting with
  | none => .ok progress.line
  | some (_, none) => .error (.fault .invalidValue)
  | some (setting, some value) => progress.line.set setting value

/-- Go on with an option that has to take the next argument. -/
def await (progress : Progress) (setting : Setting) : Except Stop Progress := do
  return ⟨← progress.settle, some (setting, none), false⟩

def assign (progress : Progress) (setting : Setting) (value : String) :
    Except Stop Progress := do
  return ⟨← (← progress.settle).set setting value, none, false⟩

def raise (progress : Progress) (flag : Flag) : Except Stop Progress := do
  return ⟨← (← progress.settle).raise flag, none, false⟩

def long (progress : Progress) (name : String) (value : Option String) : Except Stop Progress :=
  match Switch.ofLong? name, value with
  | none, _ => .error (.fault .unknownArgument)
  | some (.flag _), some _ => .error (.fault .unexpectedValue)
  | some (.flag flag), none => progress.raise flag
  | some (.setting setting), some value => progress.assign setting value
  | some (.setting setting), none => progress.await setting

/-- Go on with a group of short options: flags up to the first option with a value,
whose value is the rest of the group. -/
def short (progress : Progress) : List Char → Except Stop Progress
  | [] => .ok progress
  | name :: rest =>
      match Switch.ofShort? name with
      | none => .error (.fault .unknownArgument)
      | some (.flag flag) => do short (← progress.raise flag) rest
      | some (.setting setting) =>
          if rest.isEmpty then progress.await setting
          else progress.assign setting (attached rest)

/-- Go on with an argument that is no option: the value that is wanted, or an
address. -/
def plain (progress : Progress) (arg : String) : Except Stop Progress :=
  match progress.wants? with
  | some setting => .ok ⟨progress.line, some (setting, some arg), false⟩
  | none => do
      let line ← progress.settle
      return ⟨{ line with addrs := line.addrs ++ [arg] }, none, true⟩

end Progress

/-! ## The subcommands -/

/-- The arguments behind `help`: nothing or one subcommand. -/
def helpTopic : List String → Stop
  | [] | ["init"] | ["help"] => .help
  | _ => .fault .unknownSubcommand

/-- The template's path so far, and the path that waits to be settled; `waiting` is
`some none` while the path has to come next. -/
structure TemplateProgress where
  path : Option String
  waiting : Option (Option String)
  deriving DecidableEq, Repr

namespace TemplateProgress

/-- Set the template's path, unless it has one or the path is empty. -/
def set (path : Option String) (value : String) : Except Stop (Option String) :=
  if path.isSome then .error (.fault .argumentConflict)
  else if value = "" then .error (.fault .invalidValue)
  else .ok (some value)

def settle (progress : TemplateProgress) : Except Stop (Option String) :=
  match progress.waiting with
  | none => .ok progress.path
  | some none => .error (.fault .invalidValue)
  | some (some value) => set progress.path value

def output (progress : TemplateProgress) (value : Option String) :
    Except Stop TemplateProgress := do
  let path ← progress.settle
  match value with
  | none => return ⟨path, some none⟩
  | some value => return ⟨← set path value, none⟩

/-- The request for help, if nothing that waits is a fault. -/
def help (progress : TemplateProgress) : Except Stop TemplateProgress := do
  let _ ← progress.settle
  throw .help

def step (progress : TemplateProgress) (arg : String) : Except Stop TemplateProgress :=
  match Form.of arg with
  | .long "output" value => progress.output value
  | .long "help" none => progress.help
  | .long "help" (some _) => .error (.fault .unexpectedValue)
  | .short 'o' [] => progress.output none
  | .short 'o' others => progress.output (some (attached others))
  | .short 'h' _ => progress.help
  | .plain =>
      match progress.waiting with
      | some none => .ok ⟨progress.path, some (some arg)⟩
      | _ => .error (.fault .unknownArgument)
  | _ => .error (.fault .unknownArgument)

def finish (progress : TemplateProgress) : Except Stop String := do
  return (← progress.settle).getD templatePath

def read (progress : TemplateProgress) : List String → Except Stop String
  | [] => progress.finish
  | arg :: rest =>
      if Form.of arg = .separator ∧ rest = [] then progress.finish
      else do read (← progress.step arg) rest

end TemplateProgress

/-! ## Reading -/

/-- Whether the next argument may be the word of a subcommand. -/
def Progress.mayBeginCommand (progress : Progress) : Bool :=
  !progress.listing && progress.wants?.isNone

/-- Read the arguments behind some that were read. -/
def readFrom (progress : Progress) : List String → Except Stop CommandLine
  | [] => progress.settle
  | arg :: rest =>
      if progress.mayBeginCommand ∧ arg = "help" then .error (helpTopic rest)
      else if progress.mayBeginCommand ∧ arg = "init" then do
        let path ← TemplateProgress.read ⟨none, none⟩ rest
        let line ← progress.settle
        return { line with template := some path }
      else
        match Form.of arg with
        | .separator => do
            let line ← progress.settle
            return { line with addrs := line.addrs ++ rest }
        | .long name value => do readFrom (← progress.long name value) rest
        | .short first others => do readFrom (← progress.short (first :: others)) rest
        | .plain => do readFrom (← progress.plain arg) rest

/-- Read a command line, given without the name of the program. -/
def read (args : List String) : Except Stop CommandLine :=
  readFrom .start args

end CommandLine

end DialSelect
