import TinySql.Text.Lines
import TinySql.Text.Grapheme

/-!
Piped input as the line editor hands it to the shell: split into lines, and each line with its
backspaces carried out, a backspace taking away the grapheme cluster before it (a whole flag,
a letter with its accents) and itself.
-/

namespace TinySql.Shell

/-- The clusters kept when `clusters` are typed in order, newest first. -/
def typeClusters (kept : List (List Char)) : List (List Char) → List (List Char)
  | [] => kept
  | g :: gs => typeClusters (if g = ['\x08'] then kept.drop 1 else g :: kept) gs

/-- A line with its backspaces carried out. -/
def eraseBackspaces (line : String) : String :=
  String.ofList (typeClusters [] (Text.clusters line.toList)).reverse.flatten

/-- The lines of piped input as the shell receives them. -/
def inputLines (text : String) : List String := (Text.lines text).map eraseBackspaces

example : eraseBackspaces "quit\x08\x08it" = "quit" ∧ eraseBackspaces "\x08a" = "a" ∧
    eraseBackspaces "🇺🇸\x08k" = "k" := by
  decide +kernel

end TinySql.Shell
