import TinySql.Text.Quoted

/-!
Log lines of the shell, the engine and the line editor. A line names its level, the part of the
program it comes from and what happened, then its fields as `key=value`. Without `--verbose`
only warnings are shown; with it, every line of the engine and the shell. Messages are written
with terminal control characters escaped; values are written as they are.
-/

namespace TinySql.Shell

/-- How much a log line matters. -/
inductive Level
  | debug
  | info
  | warn
  deriving DecidableEq, Repr

/-- The level as it heads a log line. -/
def Level.name : Level → String
  | .debug => "DEBUG"
  | .info => "INFO"
  | .warn => "WARN"

/-- The part of the program a log line comes from. -/
inductive Source
  | lexer
  | parser
  | database
  | snapshot
  | shell
  | editor
  deriving DecidableEq, Repr

/-- The source as a log line names it. -/
def Source.name : Source → String
  | .lexer => "memdb::sql::lexer"
  | .parser => "memdb::sql::parser"
  | .database => "memdb::executor::database"
  | .snapshot => "memdb::storage::snapshot"
  | .shell => "memdb_cli"
  | .editor => "rustyline"

/-- One log line: level, source, what happened, and named values. -/
structure LogEvent where
  level : Level
  source : Source
  message : String
  fields : List (String × String)
  deriving DecidableEq, Repr

namespace LogEvent

/-- How a character of a message is written, so that no terminal control sequence in it
reaches the log: escape, bell, backspace, form feed and delete as `\xNN`, the C1 controls
U+0080 to U+009F as `\u` with the hexadecimal code point in braces. -/
def escapeChar (c : Char) : String :=
  match c with
  | '\x1b' => "\\x1b"
  | '\x07' => "\\x07"
  | '\x08' => "\\x08"
  | '\x0c' => "\\x0c"
  | '\x7f' => "\\x7f"
  | c =>
    if 0x80 ≤ c.toNat ∧ c.toNat ≤ 0x9f then "\\u\x7b" ++ Text.hexDigits c.toNat ++ "\x7d"
    else String.singleton c

def escape (s : String) : String := String.join (s.toList.map escapeChar)

/-- The line as written to standard error, without its newline. -/
def line (e : LogEvent) : String :=
  e.level.name ++ " " ++ e.source.name ++ ": " ++ escape e.message ++
    String.join (e.fields.map fun f => " " ++ f.1 ++ "=" ++ f.2)

/-- Whether the line is shown: when verbose, every line of the engine and the shell and none
of the line editor; else every warning. -/
def shown (verbose : Bool) (e : LogEvent) : Bool :=
  if verbose then e.source != .editor else e.level == .warn

end LogEvent

example : LogEvent.line ⟨.warn, .lexer, "dropping unrecognized input",
    [("text", "@"), ("position", "22")]⟩ =
    "WARN memdb::sql::lexer: dropping unrecognized input text=@ position=22" := by decide

end TinySql.Shell
