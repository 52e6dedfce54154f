import TinySql.Text.CodeRanges

/-!
Blank characters: the Unicode White_Space property. Blanks separate tokens, are cut from both
ends of a shell line, and split a dot command into words. The zero-width space U+200B and the
byte-order mark U+FEFF are not blanks; U+0085, U+00A0 and U+3000 are.
-/

namespace TinySql.Text

/-- The White_Space code points (Unicode 17). -/
def blankRanges : List (Nat × Nat) :=
[
  (0x0009, 0x000D), (0x0020, 0x0020), (0x0085, 0x0085), (0x00A0, 0x00A0), (0x1680, 0x1680),
  (0x2000, 0x200A), (0x2028, 0x2029), (0x202F, 0x202F), (0x205F, 0x205F), (0x3000, 0x3000)]

/-- Whether a character has the White_Space property. -/
def isBlank (c : Char) : Bool := inRanges blankRanges c.toNat

/-- The characters of `cs` with blanks cut from both ends. -/
def trimList (cs : List Char) : List Char :=
  ((cs.dropWhile isBlank).reverse.dropWhile isBlank).reverse

def trim (s : String) : String := String.ofList (trimList s.toList)

/-- The maximal runs of non-blank characters, in order. -/
def wordsList : List Char → List (List Char)
  | [] => []
  | c :: cs =>
    if isBlank c then wordsList cs
    else
      match cs.head?.any isBlank, wordsList cs with
      | false, w :: ws => (c :: w) :: ws
      | _, ws => [c] :: ws

def words (s : String) : List String := (wordsList s.toList).map String.ofList

example : isBlank ' ' ∧ isBlank '　' ∧ isBlank '\u0085' ∧ !isBlank '​' ∧ !isBlank '﻿' := by
  decide

example : words " .schema  t　x " = [".schema", "t", "x"] := by decide

end TinySql.Text
