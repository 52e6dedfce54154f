/-!
Integer literals. A signed literal is an optional `+` or `-` followed by one or more ASCII
digits, and denotes its value when that lies in the 64-bit signed range; an unsigned one is
an optional `+` and digits, within the 64-bit unsigned range. Leading zeros are allowed, and
no other character (a blank, a digit of another script, an underscore) is.
-/

namespace TinySql.Text

/-- The value of a run of ASCII digits read as a decimal numeral. -/
def digitsValue (cs : List Char) : Nat :=
  cs.foldl (fun n c => 10 * n + (c.toNat - '0'.toNat)) 0

/-- The value of a non-empty run of ASCII digits, and `none` for anything else. -/
def digitsValue? (cs : List Char) : Option Nat :=
  if !cs.isEmpty && cs.all Char.isDigit then some (digitsValue cs) else none

/-- The sign and the digits of a signed literal. -/
def splitSign : List Char → Bool × List Char
  | '-' :: rest => (true, rest)
  | '+' :: rest => (false, rest)
  | cs => (false, cs)

/-- The value of a signed literal as an integer, with no range check. -/
def signedValue? (s : String) : Option Int :=
  let (negative, digits) := splitSign s.toList
  (digitsValue? digits).map fun n => if negative then -(n : Int) else n

/-- The 64-bit signed integer a literal denotes. -/
def parseInt64? (s : String) : Option Int64 :=
  (signedValue? s).bind fun v =>
    if -Int.pow 2 63 ≤ v ∧ v < Int.pow 2 63 then some (Int64.ofInt v) else none

/-- The 64-bit unsigned integer an unsigned literal denotes. -/
def parseWord? (s : String) : Option UInt64 :=
  let digits := match s.toList with
    | '+' :: rest => rest
    | cs => cs
  (digitsValue? digits).bind fun n => if n < Nat.pow 2 64 then some (UInt64.ofNat n) else none

/-- The decimal text of a 64-bit signed integer. -/
def int64Text (v : Int64) : String :=
  if v.toInt < 0 then "-" ++ Nat.repr v.toInt.natAbs else Nat.repr v.toInt.natAbs

example : (parseInt64? "-0").map Int64.toInt = some 0 ∧ (parseInt64? "+12").map Int64.toInt = some 12 ∧
    parseInt64? "9223372036854775808" = none ∧
    (parseInt64? "-9223372036854775808").map Int64.toInt = some (-9223372036854775808) ∧
    parseInt64? "1 " = none ∧ parseInt64? "-" = none ∧ parseInt64? "" = none := by
  decide

example : parseWord? "18446744073709551615" = some 18446744073709551615 ∧
    parseWord? "18446744073709551616" = none ∧ parseWord? "+7" = some 7 ∧ parseWord? "-0" = none := by
  decide

end TinySql.Text
