import TinySql.Schema

/-!
Statements of the SQL dialect. There are four: CREATE TABLE, INSERT of one row, SELECT with an
optional single comparison, and UPDATE with the same optional comparison. Literal values stay
as the text written in the statement; a table converts them against its schema.
-/

namespace TinySql.Sql

/-- A comparison operator of a WHERE clause. -/
inductive CompareOp
  | eq | ne | gt | lt | ge | le
  deriving DecidableEq, Repr

namespace CompareOp

def symbol : CompareOp → String
  | eq => "=" | ne => "<>" | gt => ">" | lt => "<" | ge => ">=" | le => "<="

/-- Whether a left side that compares to the right side as `o` satisfies the operator. -/
def holds : CompareOp → Ordering → Bool
  | eq, o => o == .eq
  | ne, o => o != .eq
  | gt, o => o == .gt
  | lt, o => o == .lt
  | ge, o => o != .lt
  | le, o => o != .gt

/-- Every operator, in the order of its declaration. -/
def all : List CompareOp := [eq, ne, gt, lt, ge, le]

end CompareOp

/-- `column op literal`: the one condition a WHERE clause can state. -/
structure Comparison where
  column : String
  op : CompareOp
  literal : String
  deriving DecidableEq, Repr

/-- `column = value` in a SET clause. -/
structure Assignment where
  column : String
  value : String
  deriving DecidableEq, Repr

/-- The select list: every column, or the named ones in the order written. -/
inductive Projection
  | all
  | columns (names : List String)
  deriving DecidableEq, Repr

/-- A parsed statement. -/
inductive Statement
  | createTable (table : String) (columns : List Column)
  | insert (table : String) (values : List String)
  | select (projection : Projection) (table : String) (filter : Option Comparison)
  | update (table : String) (assignments : List Assignment) (filter : Option Comparison)
  deriving DecidableEq, Repr

namespace Statement

/-- Whether running the statement can change the database: all but SELECT. -/
def isMutation : Statement → Bool
  | select .. => false
  | _ => true

def table : Statement → String
  | createTable t _ | insert t _ | select _ t _ | update t _ _ => t

end Statement

end TinySql.Sql
