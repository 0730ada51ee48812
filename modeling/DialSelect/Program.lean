/-
# DialSelect.Program -- a run of the program, from arguments to exit code

`plan` reads the arguments: the program prints something, writes a configuration
template or makes a selection.  `configure` merges the settings of a selection,
and `report` executes it and says what is printed.  `perform` puts them together,
and asks its surroundings for what it needs: a file, the standard input, the
environment.  `run` is what it does when all of that is known beforehand, over the
files of any file system.

The exit code is 0 for success, 1 for a configuration that is not valid, 2 for
arguments that are not valid and for a run that failed, and 3 for a run that
selected nothing.  The standard output carries the selection and nothing else.

The texts whose wording nothing depends on are gathered in `Wording`.
-/
import DialSelect.Execute
import DialSelect.FileTree
import DialSelect.LogFilter

namespace DialSelect

set_option autoImplicit false

inductive FileFault where
  | path (fault : PathFault)
  | notUtf8
  deriving DecidableEq, Repr

def FileFault.message : FileFault → String
  | .path fault => fault.message
  | .notUtf8 => notUtf8Message

/-- Why there are no settings for a run. -/
inductive ConfigError where
  /-- The configuration file cannot be read. -/
  | unreadable (path : String) (fault : FileFault)
  /-- The configuration file is no document, or says something it may not. -/
  | malformed
  /-- A value in effect cannot be read. -/
  | settings (error : SettingsError)
  deriving DecidableEq, Repr

def templateMessage (path : String) (fault : PathFault) : String :=
  "Failed to write config file '" ++ path ++ "': " ++ fault.message

/-- The texts that are free: the help, the refusal of a command line, and what is
wrong with a document. -/
structure Wording where
  help : String
  usage : CommandLine.Fault → String
  malformed : String

/-- What a run leaves behind for its caller. -/
structure Outcome where
  exit : Nat
  stdout : String
  stderr : String
  deriving DecidableEq, Repr

namespace ConfigError

def message (wording : Wording) : ConfigError → String
  | .unreadable path fault =>
      "Failed to read config file '" ++ path ++ "': " ++ fault.message
  | .malformed => "Failed to parse TOML config: " ++ wording.malformed
  | .settings error => error.message

def hint : ConfigError → String
  | .unreadable _ _ | .malformed =>
      "\nRun 'addr-pick init' to generate a configuration template.\n"
  | .settings (.policy _ _) =>
      "\nValid policies: default, all, first, first-each, first-ipv4, first-ipv6, ipv4, ipv6, " ++
        "max:N, reverse, shuffle\n"
  | .settings _ => ""

end ConfigError

namespace Program

def version : String := "addr-pick 0.1.0"

/-! ## Exit codes -/

def exitSuccess : Nat := 0

def exitConfig : Nat := 1

/-- The exit code of a run that failed. -/
def exitRuntime : Nat := 2

/-- The exit code of arguments that are not valid. -/
def exitUsage : Nat := 2

def exitNothing : Nat := 3

/-! ## The parts of a run -/

inductive Plan where
  /-- Print something and end. -/
  | finish (outcome : Outcome)
  /-- Write a configuration template. -/
  | template (path : String)
  /-- Make a selection. -/
  | select (line : CommandLine)

/-- Read the arguments, given without the name of the program. -/
def plan (wording : Wording) (args : List String) : Plan :=
  match CommandLine.read args with
  | .error .help => .finish ⟨exitSuccess, wording.help, ""⟩
  | .error .version => .finish ⟨exitSuccess, version ++ "\n", ""⟩
  | .error (.fault fault) => .finish ⟨exitUsage, "", wording.usage fault⟩
  | .ok line =>
      match line.template with
      | some path => .template path
      | none => .select line

def templateOutcome (path : String) : Except PathFault Unit → Outcome
  | .ok () => ⟨exitSuccess, "Configuration template written to: " ++ path ++ "\n", ""⟩
  | .error fault => ⟨exitConfig, "", "Error: " ++ templateMessage path fault ++ "\n"⟩

/-- The configuration file at a path, by what was found there. -/
def parseFile (path : String) : Except FileFault String → Except ConfigError ConfigFile
  | .error fault => .error (.unreadable path fault)
  | .ok text =>
      match ConfigFile.read? text with
      | some file => .ok file
      | none => .error .malformed

/-- Ask for the configuration file of a command line, if it names one. -/
def askFile {m : Type → Type} [Monad m] (readFile : String → m (Except FileFault String))
    (line : CommandLine) : m (Except ConfigError (Option ConfigFile)) :=
  match line.config with
  | none => return .ok none
  | some path => return (parseFile path (← readFile path)).map some

def configFile (readFile : String → Except FileFault String) (line : CommandLine) :
    Except ConfigError (Option ConfigFile) :=
  Id.run (askFile readFile line)

/-- The settings of a command line with the configuration file that it names. -/
def settle (line : CommandLine) (file : Except ConfigError (Option ConfigFile)) :
    Except ConfigError Settings := do
  (Settings.merge line (← file)).mapError .settings

def configure (readFile : String → Except FileFault String) (line : CommandLine) :
    Except ConfigError Settings :=
  settle line (configFile readFile line)

def configOutcome (wording : Wording) (error : ConfigError) : Outcome :=
  ⟨exitConfig, "", "Configuration error: " ++ error.message wording ++ "\n" ++ error.hint⟩

/-- What is printed about a run with some settings, before and during which some
reports were made. -/
def runOutcome (filter : LogFilter) (settings : Settings) (run : Run) : Outcome :=
  let events := .settings settings.describe :: run.events
  match run.outcome with
  | .error error =>
      ⟨exitRuntime, "", filter.render (events ++ [.runFailed error.message])⟩
  | .ok selection =>
      let rendered := selection.render settings.format
      let stdout := if rendered = "" then "" else rendered ++ "\n"
      let exit := if selection.isEmpty then exitNothing else exitSuccess
      ⟨exit, stdout, filter.render events⟩

variable {σ : Type}

/-- Execute a selection and say what is printed.  `environment` holds the directives
on what is reported. -/
def report (environment : Option String) (settings : Settings) (input : Input)
    (unseeded : Permuter σ) (state : σ) : Outcome :=
  let outcome := runOutcome (LogFilter.choose environment settings.verbose) settings
    (execute settings input unseeded state)
  { outcome with stderr := LogFilter.complaints environment ++ outcome.stderr }

/-! ## A run -/

/-- What a run asks of its surroundings, each time it needs it. -/
structure Surroundings (m : Type → Type) (σ : Type) where
  readFile : String → m (Except PathFault ByteArray)
  writeFile : String → ByteArray → m (Except PathFault Unit)
  input : m Input
  /-- The directives on what is reported. -/
  environment : m (Option String)
  /-- The state that the permuter of a run without a seed starts from. -/
  start : m σ

/-- The content of a file as a text. -/
def textOf : Except PathFault ByteArray → Except FileFault String
  | .error fault => .error (.path fault)
  | .ok content =>
      match String.fromUTF8? content with
      | some text => .ok text
      | none => .error .notUtf8

section Perform

variable {m : Type → Type} [Monad m] (around : Surroundings m σ) (unseeded : Permuter σ)

/-- Make a selection.  The standard input is read only if the settings have no addresses. -/
def performSelection (settings : Settings) : m Outcome := do
  let input ← if settings.addrs.isEmpty then around.input else pure (.bytes .empty)
  return report (← around.environment) settings input unseeded (← around.start)

def perform (wording : Wording) (args : List String) : m Outcome := do
  match plan wording args with
  | .finish outcome => return outcome
  | .template path =>
      return templateOutcome path (← around.writeFile path ConfigFile.template.toUTF8)
  | .select line =>
      let file ← askFile (fun path => return textOf (← around.readFile path)) line
      match settle line file with
      | .error error => return configOutcome wording error
      | .ok settings => performSelection around unseeded settings

end Perform

/-! ## A run over files that are known -/

/-- A call of the program: everything that it finds around it. -/
structure Call (φ : Type) where
  args : List String
  input : Input
  files : φ
  environment : Option String

abbrev World := Call FileTree

variable {φ : Type} [FileSystem φ]

def readText (files : φ) (path : String) : Except FileFault String :=
  textOf (FileSystem.read files path)

def writeTemplate (files : φ) (path : String) : Except PathFault φ :=
  FileSystem.write files path ConfigFile.template.toUTF8

/-- A call answers what a run asks; a file that is written changes the files. -/
def Call.surroundings (call : Call φ) (state : σ) : Surroundings (StateM φ) σ where
  readFile path := return FileSystem.read (← get) path
  writeFile path content := do
    match FileSystem.write (← get) path content with
    | .error fault => return .error fault
    | .ok files =>
        set files
        return .ok ()
  input := return call.input
  environment := return call.environment
  start := return state

/-- Run the program on a call: what is printed, and the files afterwards. -/
def run (wording : Wording) (call : Call φ) (unseeded : Permuter σ) (state : σ) : Outcome × φ :=
  (perform (call.surroundings state) unseeded wording call.args).run call.files

end Program

end DialSelect
