/-
# DialSelect.Main -- the command line program

Here the surroundings of a run are those of the process: its files, its standard
streams and its environment.  What the run answers is printed.  The order of a
shuffle without a seed comes from the key stream of a random one.
-/
import DialSelect.Program

namespace DialSelect.Main

set_option autoImplicit false

def helpText : String := String.join ([
  "addr-pick: select which addresses to dial",
  "",
  "Reads candidate addresses (arguments or stdin), runs them through a chain",
  "of selection policies and prints the addresses left to try.",
  "",
  "Usage: addr-pick [OPTIONS] [ADDR]... [COMMAND]",
  "",
  "Commands:",
  "  init  Generate a default configuration file",
  "  help  Print this message or the help of the given subcommand(s)",
  "",
  "Arguments:",
  "  [ADDR]...  Candidate addresses (read from stdin when omitted)",
  "",
  "Options:",
  "  -n, --network <NETWORK>  Network the addresses belong to [tcp, udp, ip, unix]",
  "  -p, --policy <FILTER>    Selection policy (can be specified multiple times)",
  "      --seed <SEED>        Seed for deterministic shuffling",
  "      --format <FORMAT>    Output format [text, json]",
  "  -c, --config <CONFIG>    Path to configuration file",
  "  -v, --verbose            Enable verbose logging",
  "  -h, --help               Print help",
  "  -V, --version            Print version"].map (· ++ "\n"))

def usageText (fault : CommandLine.Fault) : String :=
  let reason :=
    match fault with
    | .unknownArgument => "unexpected argument found"
    | .invalidValue => "a value is missing or not allowed"
    | .argumentConflict => "an argument cannot be used multiple times"
    | .unreadableValue => "a value cannot be read"
    | .unexpectedValue => "a value was given to a flag"
    | .unknownSubcommand => "unrecognized subcommand"
  "error: " ++ reason ++ "\n\nUsage: addr-pick [OPTIONS] [ADDR]... [COMMAND]\n\n" ++
    "For more information, try '--help'.\n"

def wording : Wording := ⟨helpText, usageText, "the file is not a valid configuration"⟩

/-- The fault with a number and wording of the operating system.  Opening a file
reports the number negated. -/
def systemFault (code : UInt32) (details : String) : PathFault :=
  let code := if 0x80000000 ≤ code then -code else code
  if code = 2 then .notFound
  else if code = 20 then .notADirectory
  else if code = 21 then .isADirectory
  else if code = 36 then .nameTooLong
  else .other (details.capitalize ++ " (os error " ++ toString code ++ ")")

def pathFault : IO.Error → PathFault
  | .noFileOrDirectory _ code details => systemFault code details
  | .inappropriateType _ code details => systemFault code details
  | .invalidArgument _ code details => systemFault code details
  | .permissionDenied _ code details => systemFault code details
  | .resourceExhausted _ code details => systemFault code details
  | .hardwareFault code details => systemFault code details
  | .otherError code details => systemFault code details
  | error => .other (toString error)

def readFile (path : String) : IO (Except PathFault ByteArray) := do
  if path.toList.contains '\x00' then return .error .nulInPath
  try return .ok (← IO.FS.readBinFile path)
  catch error => return .error (pathFault error)

def writeFile (path : String) (content : ByteArray) : IO (Except PathFault Unit) := do
  if path.toList.contains '\x00' then return .error .nulInPath
  try
    IO.FS.writeBinFile path content
    return .ok ()
  catch error => return .error (pathFault error)

def readInput : IO Input := do
  try return .bytes (← (← IO.getStdin).readBinToEnd)
  catch error => return .failing (pathFault error).message

/-- The files, the streams and the environment of the process. -/
def surroundings : Program.Surroundings IO Permuter.KeyStream where
  readFile := readFile
  writeFile := writeFile
  input := readInput
  environment := IO.getEnv "RUST_LOG"
  start := return .ofSeed (← IO.rand 0 0x7FFFFFFFFFFFFFFF)

end DialSelect.Main

def main (args : List String) : IO UInt32 := do
  let outcome ← DialSelect.Program.perform DialSelect.Main.surroundings DialSelect.Permuter.seeded
    DialSelect.Main.wording args
  (← IO.getStdout).putStr outcome.stdout
  (← IO.getStderr).putStr outcome.stderr
  return outcome.exit.toUInt32
