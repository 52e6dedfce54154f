import TinySql.Text.Lower

/-!
Table schemas. A table has a name and an ordered list of typed columns, fixed when it is
created. Columns are addressed by position; a name finds the first column whose name has the
same full lowercase, so lookups ignore letter case in the Unicode sense.
-/

namespace TinySql

/-- The type of a column: a 64-bit signed integer, or text of at most `max` characters. -/
inductive DataType
  | int
  | varchar (max : UInt64)
  deriving DecidableEq, Repr

/-- The type as written in SQL: `INT` or `VARCHAR(n)`. -/
def DataType.display : DataType → String
  | .int => "INT"
  | .varchar n => "VARCHAR(" ++ Nat.repr n.toNat ++ ")"

/-- A column: its name as written and its type. -/
structure Column where
  name : String
  type : DataType
  deriving DecidableEq, Repr

/-- A table's name as written and its columns in order. -/
structure Schema where
  name : String
  columns : List Column
  deriving DecidableEq, Repr

namespace Schema

/-- Whether two names denote the same table or column: their full lowercases agree. -/
def sameName (a b : String) : Bool := Text.lower a == Text.lower b

/-- The first column of `cs` named `name` up to letter case, with its position counted
from `start`. -/
def findColumn (name : String) (start : Nat) : List Column → Option (Nat × Column)
  | [] => none
  | c :: cs => if sameName c.name name then some (start, c) else findColumn name (start + 1) cs

/-- The first column whose name is `name` up to letter case, with its position. -/
def lookup? (s : Schema) (name : String) : Option (Nat × Column) := findColumn name 0 s.columns

/-- The position of the first column whose name is `name` up to letter case. -/
def columnIndex? (s : Schema) (name : String) : Option Nat := (s.lookup? name).map (·.1)

def columnNames (s : Schema) : List String := s.columns.map (·.name)

/-- The schema as one line: `name (a INT, b VARCHAR(10))`. -/
def display (s : Schema) : String :=
  s.name ++ " (" ++ ", ".intercalate (s.columns.map fun c => c.name ++ " " ++ c.type.display) ++ ")"

end Schema

end TinySql
