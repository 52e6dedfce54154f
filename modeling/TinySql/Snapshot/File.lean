import TinySql.Snapshot.Reader
import TinySql.Files
import TinySql.Error

/-!
The snapshot file. Saving writes the snapshot's JSON text; loading reads a file, and a path
that names nothing gives no snapshot rather than an error. A directory cannot be read, and a
text that is not a snapshot gives the reader's fault.
-/

namespace TinySql.Snapshot

/-- The snapshot stored in what a path names: none for nothing, else the file's snapshot. -/
def ofEntry : Entry → Except Error (Option Snapshot)
  | .missing => .ok none
  | .directory => .error (.io .isDirectory)
  | .unreadable cause => .error (.io cause)
  | .file text => match ofJson text with
    | .ok s => .ok (some s)
    | .error e => .error (.snapshot e)

def load [Monad m] [FileSystem m] (path : String) : m (Except Error (Option Snapshot)) := do
  return ofEntry (← FileSystem.inspect path)

def save [Monad m] [FileSystem m] (s : Snapshot) (path : String) : m (Except Error Unit) := do
  return (← FileSystem.write path s.toJson).mapError .io

end TinySql.Snapshot
