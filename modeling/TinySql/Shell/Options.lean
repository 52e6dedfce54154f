/-!
The shell's command line. Options are read left to right; `-h` asks for the usage text at once,
whatever follows it, and the first option that is unknown or lacks its path is the error.
Main statement: `Command.ofArgs`, with the defaults of `Options.default`.
-/

namespace TinySql.Shell

/-- How the shell runs: its prompts, where the snapshot and the line history live, and whether
it shows tokens, parsed statements and debug logs. No snapshot path means no snapshot is read
or written. -/
structure Options where
  prompt : String := "SQL> "
  continuationPrompt : String := "...> "
  snapshotPath : Option String := some "memdb.snapshot.json"
  historyPath : String := ".memdb_history"
  verbose : Bool := false
  deriving DecidableEq, Repr

namespace Options

/-- The options when the command line gives none. -/
def default : Options := {}

/-- Which log lines are shown: debug and up from the engine when verbose, else warnings. -/
def logDirective (o : Options) : String := if o.verbose then "memdb=debug" else "warn"

end Options

/-- What the command line asks for: the usage text, or a session with these options. -/
inductive Command
  | help
  | run (options : Options)
  deriving DecidableEq, Repr

/-- Why a command line is refused. -/
inductive ArgError
  | snapshotNeedsPath
  | historyNeedsPath
  | unknown (arg : String)
  deriving DecidableEq, Repr

def ArgError.message : ArgError → String
  | .snapshotNeedsPath => "--snapshot requires a path"
  | .historyNeedsPath => "--history requires a path"
  | .unknown arg => "unknown argument '" ++ arg ++ "'"

namespace Command

/-- Reads options left to right into `o`. -/
def readFrom (o : Options) : List String → Except ArgError Command
  | [] => .ok (.run o)
  | arg :: rest =>
    if arg = "--help" ∨ arg = "-h" then .ok .help
    else if arg = "--verbose" ∨ arg = "-v" then readFrom { o with verbose := true } rest
    else if arg = "--no-snapshot" then readFrom { o with snapshotPath := none } rest
    else if arg = "--snapshot" ∨ arg = "-s" then
      match rest with
      | path :: more => readFrom { o with snapshotPath := some path } more
      | [] => .error .snapshotNeedsPath
    else if arg = "--history" then
      match rest with
      | path :: more => readFrom { o with historyPath := path } more
      | [] => .error .historyNeedsPath
    else .error (.unknown arg)

/-- The command a list of arguments asks for, from the default options. -/
def ofArgs (args : List String) : Except ArgError Command := readFrom Options.default args

example : ofArgs ["-s", "db.json", "-v"] =
    .ok (.run { snapshotPath := some "db.json", verbose := true }) := rfl
example : ofArgs ["-v", "-h", "--bogus"] = .ok .help := rfl
example : ofArgs ["--bogus", "1"] = .error (.unknown "--bogus") := rfl

end Command

/-- The usage text, ending without a newline. -/
def usage : String :=
  "Usage: memdb-cli [OPTIONS]\n\nOptions:\n" ++
  "  -s, --snapshot <path>   Snapshot file (default: memdb.snapshot.json)\n" ++
  "      --no-snapshot       Do not read or write a snapshot\n" ++
  "      --history <path>    Line history file (default: .memdb_history)\n" ++
  "  -v, --verbose           Show tokens and debug logs\n" ++
  "  -h, --help              Show this message"

end TinySql.Shell
