import TinySql.Text.Lines

/-!
The shell's line history. It keeps at most a hundred entries, oldest first, and never takes an
empty entry or one equal to the last. It is saved only if an entry was added since it was
loaded. On disk it is the line `#V2` and then one entry a line, a backslash and a line feed
inside an entry written as `\\` and `\n`; a file without that first line holds one entry a line
as written. Main statements: `History.add`, `History.text`, `History.ofText`.
-/

namespace TinySql.Shell

/-- Entries oldest first, and how many of them were added since the history was loaded. -/
structure History where
  entries : List String
  added : Nat
  deriving DecidableEq, Repr

namespace History

/-- The most entries a history keeps. -/
def capacity : Nat := 100

def empty : History := ⟨[], 0⟩

/-- Adds an entry at the end unless it is empty or equal to the last; when the history is full
the oldest entry goes. -/
def add (h : History) (entry : String) : History :=
  if entry.isEmpty || h.entries.getLast? == some entry then h
  else
    let kept := if h.entries.length = capacity then h.entries.drop 1 else h.entries
    let entries := kept ++ [entry]
    ⟨entries, min (h.added + 1) entries.length⟩

/-- How one character of an entry is written on disk. -/
def escapeChar : Char → List Char
  | '\\' => ['\\', '\\']
  | '\n' => ['\\', 'n']
  | c => [c]

/-- The file text of a history. -/
def text (h : History) : String :=
  "#V2\n" ++ String.join (h.entries.map fun e => String.ofList (e.toList.flatMap escapeChar) ++ "\n")

/-- Reads the escapes of one line back: `\n` and `\\`; any other backslash makes the line
stand as written, which `none` reports. -/
def unescape : List Char → Option (List Char)
  | [] => some []
  | '\\' :: 'n' :: rest => (unescape rest).map ('\n' :: ·)
  | '\\' :: '\\' :: rest => (unescape rest).map ('\\' :: ·)
  | '\\' :: _ => none
  | c :: rest => (unescape rest).map (c :: ·)

/-- A history read from its file text, with the lines whose escapes could not be read. Nothing
counts as added. -/
def ofText (text : String) : History × List String :=
  let lines := Text.lines text
  let (start, rest, escaped) := match lines with
    | first :: rest => if first = "#V2" then (empty, rest, true) else (empty.add first, rest, false)
    | [] => (empty, [], false)
  let step := fun (acc : History × List String) (line : String) =>
    if line.isEmpty then acc
    else if escaped then
      match unescape line.toList with
      | some cs => (acc.1.add (String.ofList cs), acc.2)
      | none => (acc.1.add line, acc.2 ++ [line])
    else (acc.1.add line, acc.2)
  let (h, bad) := rest.foldl step (start, [])
  ({ h with added := 0 }, bad)

example : (empty.add "a").add "a" = ⟨["a"], 1⟩ := by decide
example : (ofText ((empty.add "x\\y").add "p\nq").text).1.entries = ["x\\y", "p\nq"] := by
  decide +kernel

end History

end TinySql.Shell
