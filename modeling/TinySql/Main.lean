import TinySql.Shell.Session

/-!
The `memdb-cli` command: the shell session on the process's arguments, standard input and
working directory. Lines are read one at a time; what the session writes for a line is printed
before the next is read. A prompt is shown only when standard input is a terminal.
-/

namespace TinySql.Console

open Shell

/-- The system's error number and wording of a failed operation, when it has them. -/
def systemCause : IO.Error → Option (UInt32 × String)
  | .alreadyExists _ c d | .otherError c d | .resourceBusy c d | .resourceVanished c d
  | .unsupportedOperation c d | .hardwareFault c d | .unsatisfiedConstraints c d
  | .illegalOperation c d | .protocolError c d | .timeExpired c d | .interrupted _ c d
  | .noFileOrDirectory _ c d | .invalidArgument _ c d | .permissionDenied _ c d
  | .resourceExhausted _ c d | .inappropriateType _ c d | .noSuchThing _ c d => some (c, d)
  | _ => none

/-- The cause of a failed file operation. An error number may come negated, as a word. -/
def fileError (e : IO.Error) : FileError :=
  match systemCause e with
  | some (c, d) =>
    let n := c.toNat
    FileError.ofCode (if n ≥ Nat.pow 2 31 then Nat.pow 2 32 - n else n) d
  | none => .other 0 (toString e)

/-- What a path names, found by reading it: a path that leads nowhere names nothing. -/
def entryOf (path : String) : IO Entry := do
  try
    return .file (← IO.FS.readFile path)
  catch e =>
    return match fileError e with
      | .notFound | .notDirectory | .nameTooLong => .missing
      | .isDirectory => .directory
      | cause => .unreadable cause

instance : FileSystem IO where
  inspect := entryOf
  write path text := do
    try
      IO.FS.writeFile path text
      return .ok ()
    catch e =>
      return .error (fileError e)

def emit (t : Transcript) : IO Unit := do
  let out ← IO.getStdout
  out.putStr t.out
  out.flush
  let err ← IO.getStderr
  err.putStr t.err
  err.flush

/-- Runs a shell step and prints what it wrote. -/
def step (act : ShellM IO α) : IO α := do
  let (a, t) ← act.run {}
  emit t
  return a

/-- Feeds standard input to the session line by line until it ends or the session does. -/
partial def loop (input : IO.FS.Stream) (s : Session) : IO Session := do
  if ← input.isTty then
    step (say (if s.pending.isEmpty then s.options.prompt else s.options.continuationPrompt))
  let raw ← input.getLine
  if raw.isEmpty then return s
  let (s, more) ← step (s.feed (eraseBackspaces ((Text.lines raw).headD "")))
  if more then loop input s else return s

end TinySql.Console

open TinySql TinySql.Shell TinySql.Console in
/-- Runs the shell; the exit status is 2 for a refused command line, else 0. -/
def main (args : List String) : IO UInt32 := do
  match launch args with
  | .error (t, code) =>
    emit t
    return code.toUInt32
  | .ok o =>
    let s ← step (Session.start o)
    let s ← loop (← IO.getStdin) s
    step s.close
    return 0
