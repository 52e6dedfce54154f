/-!
The order of texts: lexicographic by code point, a shorter text before any longer text that
it begins. This is also the order of their UTF-8 encodings compared byte by byte.
-/

namespace TinySql.Text

/-- Compares two character lists by code point, lexicographically. -/
def codePointOrder : List Char → List Char → Ordering
  | [], [] => .eq
  | [], _ :: _ => .lt
  | _ :: _, [] => .gt
  | a :: as, b :: bs =>
    if a.toNat < b.toNat then .lt else if b.toNat < a.toNat then .gt else codePointOrder as bs

def compareText (s t : String) : Ordering := codePointOrder s.toList t.toList

example : compareText "10" "9" = .lt ∧ compareText "ab" "a" = .gt ∧ compareText "é" "z" = .gt := by
  decide

end TinySql.Text
