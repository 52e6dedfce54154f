/-!
A text as lines. A line ends at a line feed, which is not part of it, and a carriage return
just before that line feed is dropped too; text after the last line feed is one more line if it
is not empty.
-/

namespace TinySql.Text

/-- The pieces between line feeds, the last one being what follows the last line feed. -/
def splitLines : List Char → List (List Char)
  | [] => [[]]
  | c :: rest =>
    match splitLines rest with
    | [] => [[c]]
    | l :: ls => if c = '\n' then [] :: l :: ls else (c :: l) :: ls

/-- A line that ended with a line feed, without the carriage return before it. -/
def dropReturn (l : List Char) : List Char :=
  if l.getLast? = some '\r' then l.dropLast else l

def lines (text : String) : List String :=
  let pieces := splitLines text.toList
  let ended := pieces.dropLast.map dropReturn
  let last := pieces.getLast?.getD []
  (ended ++ (if last.isEmpty then [] else [last])).map String.ofList

example : lines "a\r\nb\n\nc" = ["a", "b", "", "c"] ∧ lines "x\n" = ["x"] ∧ lines "" = [] := by
  decide +kernel

end TinySql.Text
