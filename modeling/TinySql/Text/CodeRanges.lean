/-!
Sets of code points kept as lists of inclusive ranges. Every character class of this library
(blanks, letters and digits, cased letters, marks) is stored this way and read by one test.
-/

namespace TinySql.Text

/-- Whether the code point `n` lies in one of the inclusive ranges `(first, last)`. -/
def inRanges (ranges : List (Nat × Nat)) (n : Nat) : Bool :=
  ranges.any fun r => r.1 ≤ n && n ≤ r.2

theorem inRanges_iff {ranges : List (Nat × Nat)} {n : Nat} :
    inRanges ranges n = true ↔ ∃ r ∈ ranges, r.1 ≤ n ∧ n ≤ r.2 := by
  simp [inRanges]

end TinySql.Text
