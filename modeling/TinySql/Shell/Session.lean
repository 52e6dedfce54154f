import TinySql.Database
import TinySql.Snapshot.File
import TinySql.Sql.Outline
import TinySql.Text.Blank
import TinySql.Text.Lines
import TinySql.Shell.Options
import TinySql.Shell.Log
import TinySql.Shell.History
import TinySql.Shell.Input

/-!
A shell session. It restores the database from the snapshot file, reads the line history,
shows a banner, then takes input line by line: blank lines are skipped; between statements
`quit` ends the session and a line starting with `.` is a command; other lines gather into a
statement, joined by one space, which runs once a line ends with `;`. After each statement that
changes the database the snapshot file is written again. At the end the history is saved and
the session says goodbye.

The session reaches files only through `FileSystem`, so one definition serves a real directory
and one held in memory. What it writes is collected in a `Transcript`, one text per stream.
-/

namespace TinySql.Shell

open Sql

/-- What the shell has written: its standard output and its standard error. -/
structure Transcript where
  out : String := ""
  err : String := ""
  deriving DecidableEq, Repr

/-- A shell computation over files in `m` that writes a transcript. -/
abbrev ShellM (m : Type → Type) := StateT Transcript m

section Writing

variable {m : Type → Type} [Monad m]

def say (text : String) : ShellM m Unit := modify fun t => { t with out := t.out ++ text }

def complain (text : String) : ShellM m Unit := modify fun t => { t with err := t.err ++ text }

/-- Writes a log line to standard error if the verbosity shows it. -/
def log (verbose : Bool) (e : LogEvent) : ShellM m Unit :=
  if e.shown verbose then complain (e.line ++ "\n") else pure ()

end Writing

/-- The text shown when the session starts. -/
def banner : String :=
  "\n memdb - a minimal in-memory SQL engine\n Supported: CREATE TABLE, INSERT, SELECT, UPDATE\n" ++
  " Type '.help' for help, '.quit' to exit\n\n"

/-- The text of the `.help` command. -/
def helpText : String :=
  "\nCommands:\n" ++
  "  .help              Show this help message\n" ++
  "  .quit              Exit memdb (also .exit or quit)\n" ++
  "  .tables            List all tables\n" ++
  "  .schema [table]    Show table schema\n" ++
  "\nSQL Commands (end each statement with ';'):\n" ++
  "  CREATE TABLE ...   Create a new table (INT, VARCHAR(n) columns)\n" ++
  "  INSERT INTO ...    Insert one row\n" ++
  "  SELECT ...         Query rows, optionally filtered by one comparison\n" ++
  "  UPDATE ...         Update rows, optionally filtered by one comparison\n" ++
  "\nExamples:\n" ++
  "  CREATE TABLE users (id INT, name VARCHAR(100));\n" ++
  "  INSERT INTO users VALUES (1, 'Alice');\n" ++
  "  SELECT * FROM users WHERE id = 1;\n" ++
  "  UPDATE users SET name = 'Bob' WHERE id = 1;\n\n"

/-- The log line of a statement that ran: what it did to which table, with the table named as
the statement wrote it. -/
def executedEvent (stmt : Statement) (db : Database) (r : QueryResult) : LogEvent :=
  match stmt with
  | .createTable t cols =>
    ⟨.info, .database, "created table", [("table", t), ("columns", Nat.repr cols.length)]⟩
  | .insert t _ =>
    ⟨.info, .database, "inserted row",
      [("table", t), ("rows", Nat.repr (((db.find? t).map (·.rowCount)).getD 0))]⟩
  | .select _ t _ =>
    ⟨.debug, .database, "selected rows", [("table", t), ("rows", Nat.repr r.rows.length)]⟩
  | .update t _ _ =>
    ⟨.info, .database, "updated rows", [("table", t), ("rows", Nat.repr r.affected)]⟩

/-- Whether a line, ignoring ASCII letter case, is `quit`. -/
def isQuit (line : String) : Bool := line.map Char.toLower == "quit"

/-- The state of a session between lines: its options, the database, the statement gathered
so far and the line history. -/
structure Session where
  options : Options
  db : Database
  pending : String
  history : History

namespace Session

variable {m : Type → Type} [Monad m] [FileSystem m]

/-- The database in the snapshot file, or an empty one when there is no file, no snapshot path,
or the file cannot be restored. -/
def restore (o : Options) : ShellM m Database := do
  match o.snapshotPath with
  | none => pure .empty
  | some path =>
    let loaded ← (Snapshot.load path : m _)
    if let .ok (some snap) := loaded then
      log o.verbose ⟨.debug, .snapshot, "loaded snapshot",
        [("path", path), ("tables", Nat.repr snap.tables.length)]⟩
    match loaded >>= fun snap => Database.ofSnapshot (snap.getD ⟨[]⟩) with
    | .ok db =>
      if !db.tables.isEmpty then
        say ("Restored " ++ Nat.repr db.tables.length ++ " table(s) from " ++ path ++ "\n")
      pure db
    | .error e =>
      complain ("Could not restore snapshot " ++ path ++ ": " ++ e.message ++ "\n")
      pure .empty

/-- The line history in the history file, or an empty one when it cannot be read. -/
def loadHistory (o : Options) : ShellM m History := do
  match ← (FileSystem.inspect o.historyPath : m Entry) with
  | .file text =>
    let (h, bad) := History.ofText text
    bad.forM fun line => log o.verbose ⟨.warn, .editor, "bad escaped line: " ++ line, []⟩
    pure h
  | _ =>
    log o.verbose ⟨.debug, .shell, "no previous history", []⟩
    pure .empty

/-- Starts a session: restores the database, reads the history and shows the banner. -/
def start (o : Options) : ShellM m Session := do
  let db ← restore o
  let history ← loadHistory o
  say banner
  pure ⟨o, db, "", history⟩

/-- Writes the snapshot file, if the session has one; a failure is a warning. -/
def saveSnapshot (s : Session) : ShellM m Unit := do
  match s.options.snapshotPath with
  | none => pure ()
  | some path =>
    let snap := s.db.snapshot
    match ← (Snapshot.save snap path : m _) with
    | .ok () =>
      log s.options.verbose ⟨.debug, .snapshot, "saved snapshot",
        [("path", path), ("tables", Nat.repr snap.tables.length)]⟩
    | .error e =>
      log s.options.verbose ⟨.warn, .shell, "failed to write snapshot",
        [("path", path), ("error", e.message)]⟩

/-- Runs one statement's text: lexes it, dropping what no token matches with a warning, parses
and runs it, shows the result or the error, and writes the snapshot after a change. When
verbose it also shows the tokens and the parsed statement. -/
def execute (s : Session) (sql : String) : ShellM m Session := do
  let verbose := s.options.verbose
  let lexed := lex (Text.trim sql)
  lexed.forM fun t =>
    if t.kind = .unknown then
      log verbose ⟨.warn, .lexer, "dropping unrecognized input",
        [("text", t.text), ("position", Nat.repr t.pos)]⟩
    else pure ()
  let tokens := lexed.filter (·.kind ≠ .unknown)
  log verbose ⟨.debug, .lexer, "tokenized input", [("count", Nat.repr tokens.length)]⟩
  if verbose then
    say (String.join ((tokens.filter (·.kind ≠ .eof)).map fun t => "  " ++ t.display ++ "\n"))
  match parseTokens tokens with
  | .error e =>
    complain (e.message ++ "\n")
    pure s
  | .ok stmt =>
    log verbose ⟨.debug, .parser, "parsed statement", [("statement", stmt.outline)]⟩
    if verbose then say ("  AST: " ++ stmt.outline ++ "\n")
    let (db, result) := s.db.execute stmt
    let s := { s with db }
    match result with
    | .error e =>
      complain (e.message ++ "\n")
      pure s
    | .ok r =>
      log verbose (executedEvent stmt db r)
      say r.render
      if stmt.isMutation then s.saveSnapshot
      pure s

/-- Runs a command line starting with `.`; false when it ends the session. -/
def command (s : Session) (line : String) : ShellM m Bool := do
  match Text.words line with
  | [] => pure true
  | cmd :: args =>
    if cmd = ".help" then say helpText
    else if cmd = ".quit" ∨ cmd = ".exit" then return false
    else if cmd = ".tables" then
      match s.db.tableNames with
      | [] => say "No tables found.\n"
      | names => say (String.join (names.map fun n => "  " ++ n ++ "\n"))
    else if cmd = ".schema" then
      match args with
      | name :: _ =>
        match s.db.get name with
        | .ok t => say (t.describe ++ "\n")
        | .error e => complain (e.message ++ "\n")
      | [] => say (String.join (s.db.tables.map fun t => t.describe ++ "\n"))
    else complain ("Unknown command: " ++ cmd ++ "\nType '.help' for available commands.\n")
    pure true

/-- Takes one line of input; false when the session ends. -/
def feed (s : Session) (line : String) : ShellM m (Session × Bool) := do
  let trimmed := Text.trim line
  if trimmed.isEmpty then return (s, true)
  if s.pending.isEmpty then
    if isQuit trimmed then return (s, false)
    if trimmed.startsWith "." then
      let s := { s with history := s.history.add trimmed }
      let more ← s.command trimmed
      return (s, more)
  let pending := if s.pending.isEmpty then trimmed else s.pending ++ " " ++ trimmed
  if trimmed.endsWith ";" then
    let s ← { s with pending := "", history := s.history.add pending }.execute pending
    return (s, true)
  return ({ s with pending }, true)

/-- Takes lines until they run out or one ends the session. -/
def feedAll (s : Session) : List String → ShellM m Session
  | [] => pure s
  | line :: rest => do
    let (s, more) ← s.feed line
    if more then s.feedAll rest else pure s

/-- Ends a session: saves the history if an entry was added, then says goodbye. -/
def close (s : Session) : ShellM m Unit := do
  if s.history.added > 0 && !s.history.entries.isEmpty then
    match ← (FileSystem.write s.options.historyPath s.history.text : m _) with
    | .ok () => pure ()
    | .error e => log s.options.verbose ⟨.warn, .shell, "failed to save history", [("error", e.message)]⟩
  say "Goodbye!\n"

end Session

/-- What a command line leads to: the options of a session, or, for a refused line or a
request for help, all the shell writes and its exit status. A refused line shows the error and
the usage and exits with 2. -/
def launch (args : List String) : Except (Transcript × Nat) Options :=
  match Command.ofArgs args with
  | .error e => .error ({ out := usage ++ "\n", err := "error: " ++ e.message ++ "\n" }, 2)
  | .ok .help => .error ({ out := usage ++ "\n" }, 0)
  | .ok (.run o) => .ok o

/-- Runs the shell on a command line and the lines of its input; the exit status. -/
def interact {m : Type → Type} [Monad m] [FileSystem m] (args : List String)
    (input : List String) : ShellM m Nat := do
  match launch args with
  | .error (t, code) =>
    set t
    pure code
  | .ok o =>
    let s ← Session.start o
    let s ← s.feedAll input
    s.close
    pure 0

end TinySql.Shell
