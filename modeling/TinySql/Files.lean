import TinySql.FileError

/-!
Files as the shell sees them. A path names nothing, a directory, or a file with its text.
`FileSystem` is what the shell needs of its surroundings: to look at a path and to write a
file. `Directory` is a working directory held in memory, which answers the same questions
the way a POSIX file system does: a file can be written only where its parent directory
exists, a directory cannot be written over, a file cannot stand in the middle of a path, and
no name may exceed 255 bytes nor the path 4095.
-/

namespace TinySql

/-- What a path names: nothing, a directory, a file with its text, or something that exists
but cannot be read, for the cause given. -/
inductive Entry
  | missing
  | directory
  | file (text : String)
  | unreadable (cause : FileError)
  deriving DecidableEq, Repr

/-- Looking at paths and writing files, in some monad. -/
class FileSystem (m : Type → Type) where
  inspect : String → m Entry
  write : String → String → m (Except FileError Unit)

/-- A working directory in memory: its files by path and the directories created in it
besides those that hold files. -/
structure Directory where
  files : List (List String × String)
  dirs : List (List String)
  deriving DecidableEq, Repr

namespace Directory

def empty : Directory := ⟨[], []⟩

/-- The names along a path, without empty and `.` names. -/
def components (path : String) : List String :=
  (path.splitOn "/").filter fun c => c ≠ "" ∧ c ≠ "."

def fileAt? (d : Directory) (names : List String) : Option String :=
  (d.files.find? (·.1 == names)).map (·.2)

/-- Whether the names lead to a directory: the working directory itself, one created in it,
or one that holds a file. -/
def isDir (d : Directory) (names : List String) : Bool :=
  names.isEmpty || d.dirs.contains names ||
    d.files.any fun f => names.length < f.1.length && f.1.take names.length == names

/-- The longest name a directory holds, in bytes. -/
def nameLimit : Nat := 255

/-- The longest path, in bytes. -/
def pathLimit : Nat := 4095

/-- Whether a path, or a name on it, is longer than the system takes. -/
def tooLong (path : String) : Bool :=
  path.utf8ByteSize > pathLimit || (components path).any fun n => n.utf8ByteSize > nameLimit

/-- What a path names in the directory. A path ending with `/` names only a directory, and a
path that is too long names nothing. -/
def inspect (d : Directory) (path : String) : Entry :=
  let names := components path
  if path.isEmpty || tooLong path then .missing
  else if path.endsWith "/" then (if d.isDir names then .directory else .missing)
  else
    match d.fileAt? names with
    | some text => .file text
    | none => if d.isDir names then .directory else .missing

/-- The first fault met walking down to the last name of a path, past the names in `done`:
a name too long, a file where a directory should be, or a directory that is missing. -/
def walkFault (d : Directory) (done : List String) : List String → Option FileError
  | [] => none
  | [last] => if last.utf8ByteSize > nameLimit then some .nameTooLong else none
  | n :: rest =>
    if n.utf8ByteSize > nameLimit then some .nameTooLong
    else if (d.fileAt? (done ++ [n])).isSome then some .notDirectory
    else if !d.isDir (done ++ [n]) then some .notFound
    else walkFault d (done ++ [n]) rest

/-- Writes a file at a path, replacing any file there. -/
def write (d : Directory) (path : String) (text : String) : Directory × Except FileError Unit :=
  let names := components path
  if path.isEmpty then (d, .error .notFound)
  else if path.utf8ByteSize > pathLimit then (d, .error .nameTooLong)
  else
    match d.walkFault [] names with
    | some e => (d, .error e)
    | none =>
      if d.isDir names || path.endsWith "/" then
        (d, .error (if (d.fileAt? names).isSome then .notDirectory else .isDirectory))
      else (⟨(names, text) :: d.files.filter (·.1 != names), d.dirs⟩, .ok ())

/-- The files directly in the working directory whose names end with `.json`, by name. -/
def jsonFiles (d : Directory) : List (String × String) :=
  (d.files.filterMap fun f => match f.1 with
    | [name] => if name.endsWith ".json" then some (name, f.2) else none
    | _ => none).reverse

end Directory

instance : FileSystem (StateM Directory) where
  inspect path := do return (← get).inspect path
  write path text := modifyGet fun d => let (d', r) := d.write path text; (r, d')

end TinySql
