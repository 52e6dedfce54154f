import TinySql.Error
import TinySql.Text.Integer
import TinySql.Text.Order

/-!
Stored values and rows. A value is a 64-bit integer or a text; a row is a list of values in
column order. Literal text from a statement becomes a value only through `Value.coerce`, which
checks it against the column's type, and is compared with a stored value by
`Value.compareLiteral`: integers numerically once the literal reads as an integer, texts by
code point.
-/

namespace TinySql

inductive Value
  | int (v : Int64)
  | text (s : String)
  deriving DecidableEq, Repr

namespace Value

/-- The value as shown in a result table: decimal digits or the text itself. -/
def display : Value → String
  | int v => Text.int64Text v
  | text s => s

def asInt? : Value → Option Int64
  | int v => some v
  | text _ => none

def asText? : Value → Option String
  | text s => some s
  | int _ => none

/-- Converts literal text to the column's type: an integer literal for INT, and for
VARCHAR(n) the text itself when it has at most `n` characters. -/
def coerce (c : Column) (literal : String) : Except Error Value :=
  match c.type with
  | .int =>
    match Text.parseInt64? literal with
    | some v => .ok (int v)
    | none => .error (.invalidInteger c.name literal)
  | .varchar max =>
    if literal.length ≤ max.toNat then .ok (text literal)
    else .error (.valueTooLong c.name max literal)

/-- Compares the value with literal text from a WHERE clause on `column`: an integer
numerically, which needs the literal to be an integer, and a text by code point. -/
def compareLiteral (v : Value) (column literal : String) : Except Error Ordering :=
  match v with
  | int n =>
    match Text.parseInt64? literal with
    | some m => .ok (compare n.toInt m.toInt)
    | none => .error (.nonNumericComparison column literal)
  | text s => .ok (Text.compareText s literal)

end Value

/-- A row: values in column order. -/
structure Row where
  values : List Value
  deriving DecidableEq, Repr

namespace Row

def get? (r : Row) (i : Nat) : Option Value := r.values[i]?

/-- The row with the value at position `i` replaced; a position past the end changes nothing. -/
def set (r : Row) (i : Nat) (v : Value) : Row := ⟨r.values.set i v⟩

/-- The row with each `(position, value)` pair placed in turn, as `set` places it. -/
def setAll (r : Row) (pairs : List (Nat × Value)) : Row := pairs.foldl (fun r (i, v) => r.set i v) r

/-- The values at the given positions, in that order, skipping positions past the end. -/
def project (r : Row) (indices : List Nat) : Row := ⟨indices.filterMap r.get?⟩

end Row

end TinySql
