/-!
Why a file could not be read or written: the path, or a directory on it, is missing; the path
names a directory; a part of the path that should be a directory is a file; a name on the path,
or the whole path, is too long; or another cause
the operating system reports. Each is shown as the operating system words it, with its error
number.
-/

namespace TinySql

/-- The cause of a failed file operation. -/
inductive FileError
  | notFound
  | isDirectory
  | notDirectory
  | nameTooLong
  | other (code : Nat) (description : String)
  deriving DecidableEq, Repr

/-- The system's wording of the cause. -/
def FileError.message : FileError → String
  | .notFound => "No such file or directory (os error 2)"
  | .isDirectory => "Is a directory (os error 21)"
  | .notDirectory => "Not a directory (os error 20)"
  | .nameTooLong => "File name too long (os error 36)"
  | .other code description => description ++ " (os error " ++ Nat.repr code ++ ")"

/-- The system's wording of the file errors it names by number, besides the four above. -/
def FileError.descriptions : List (Nat × String) :=
  [(1, "Operation not permitted"), (5, "Input/output error"), (13, "Permission denied"),
   (17, "File exists"), (26, "Text file busy"), (28, "No space left on device"),
   (30, "Read-only file system"), (40, "Too many levels of symbolic links")]

/-- The cause with a system error number; `fallback` words a number the table does not hold. -/
def FileError.ofCode (code : Nat) (fallback : String) : FileError :=
  if code = 2 then .notFound
  else if code = 20 then .notDirectory
  else if code = 21 then .isDirectory
  else if code = 36 then .nameTooLong
  else .other code (((descriptions.find? (·.1 == code)).map (·.2)).getD fallback)

end TinySql
