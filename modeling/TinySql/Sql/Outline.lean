import TinySql.Sql.Statement
import TinySql.Text.Quoted

/-!
The outline of a parsed statement: its parts written field by field on one line, texts
quoted, the way the shell shows what it understood. A record is `Name { field: value, … }`,
a list `[a, b]`, an optional part `None` or `Some(x)`, a variant with data `Name(x)`.
-/

namespace TinySql.Sql

namespace Outline

/-- A record with its fields in order. -/
def record (name : String) (fields : List (String × String)) : String :=
  name ++ " \x7b " ++ ", ".intercalate (fields.map fun f => f.1 ++ ": " ++ f.2) ++ " \x7d"

def list (items : List String) : String := "[" ++ ", ".intercalate items ++ "]"

def tagged (name : String) (inner : String) : String := name ++ "(" ++ inner ++ ")"

def optional : Option String → String
  | none => "None"
  | some x => tagged "Some" x

end Outline

open Outline Text

def CompareOp.outline : CompareOp → String
  | .eq => "Eq" | .ne => "Neq" | .gt => "Gt" | .lt => "Lt" | .ge => "Gte" | .le => "Lte"

def typeOutline : DataType → String
  | .int => "Int"
  | .varchar n => tagged "Varchar" (Nat.repr n.toNat)

def columnOutline (c : Column) : String :=
  record "ColumnDefinition" [("name", quote c.name), ("data_type", typeOutline c.type)]

def Comparison.outline (c : Comparison) : String :=
  record "WhereClause" [("condition", record "Comparison"
    [("left", quote c.column), ("op", c.op.outline), ("right", quote c.literal)])]

def Assignment.outline (a : Assignment) : String :=
  record "Assignment" [("column", quote a.column), ("value", quote a.value)]

def Projection.outline : Projection → String
  | .all => "Wildcard"
  | .columns names => tagged "Columns" (list (names.map quote))

def Statement.outline : Statement → String
  | .createTable t cols => tagged "CreateTable" (record "CreateTableStatement"
      [("table_name", quote t), ("columns", list (cols.map columnOutline))])
  | .insert t values => tagged "Insert" (record "InsertStatement"
      [("table_name", quote t), ("values", list (values.map quote))])
  | .select p t cond => tagged "Select" (record "SelectStatement"
      [("columns", p.outline), ("table_name", quote t),
       ("where_clause", optional (cond.map (·.outline)))])
  | .update t assignments cond => tagged "Update" (record "UpdateStatement"
      [("table_name", quote t), ("assignments", list (assignments.map (·.outline))),
       ("where_clause", optional (cond.map (·.outline)))])

example : (Statement.insert "t" ["1", "abc"]).outline =
    "Insert(InsertStatement \x7b table_name: \"t\", values: [\"1\", \"abc\"] \x7d)" := by
  decide +kernel

end TinySql.Sql
