import TinySql.Store
import TinySql.Sql.Statement

/-!
Tables: a schema bound to a row store. Literal text from statements is checked and converted
here, and a WHERE clause becomes a row filter once its column is found. An insert stores a
whole row or nothing. An update finds its SET columns, then the WHERE column, and then
changes each matching row on a copy, so that a row changes only when every assignment
converted.
-/

namespace TinySql

open Sql

/-- A schema and the rows stored under it. -/
structure Table where
  schema : Schema
  store : Store
  deriving DecidableEq, Repr

namespace Table

def empty (s : Schema) : Table := ⟨s, .empty⟩

/-- The table's name as written at creation. -/
def name (t : Table) : String := t.schema.name

def rowCount (t : Table) : Nat := t.store.count

/-- One line describing the table: `t (a INT, b VARCHAR(10)) -- 2 row(s)`. -/
def describe (t : Table) : String := t.schema.display ++ " -- " ++ Nat.repr t.rowCount ++ " row(s)"

/-- The position and definition of the column a name denotes, or `columnNotFound`. -/
def column (t : Table) (name : String) : Except Error (Nat × Column) :=
  match t.schema.lookup? name with
  | some found => .ok found
  | none => .error (.columnNotFound name t.name)

/-- Stores one row given the literal text of each value in column order. The count is
checked first, then each value in column order; on any failure nothing is stored. -/
def insertRow (t : Table) (values : List String) : Except Error Table :=
  if values.length ≠ t.schema.columns.length then
    .error (.columnCountMismatch t.schema.columns.length values.length)
  else do
    let row ← (t.schema.columns.zip values).mapM fun (c, v) => Value.coerce c v
    pure { t with store := t.store.insert ⟨row⟩ }

/-- The row filter of `column op literal` with the column at position `i`: the value there
compared with the literal. A row without a value at that position does not match. -/
def comparisonFilter (i : Nat) (c : Comparison) : RowFilter := fun row =>
  match row.get? i with
  | some v => (v.compareLiteral c.column c.literal).map c.op.holds
  | none => .ok false

/-- The row filter of `column op literal`, with the column found now. -/
def filterFor (t : Table) (c : Comparison) : Except Error RowFilter := do
  let (i, _) ← t.column c.column
  pure (comparisonFilter i c)

/-- The filter of an optional WHERE clause: every row when there is none. -/
def filterOf (t : Table) : Option Comparison → Except Error RowFilter
  | none => .ok fun _ => .ok true
  | some c => t.filterFor c

/-- The rows that satisfy the WHERE clause, in storage order. -/
def select (t : Table) (cond : Option Comparison) : Except Error (List Row) := do
  t.store.scan (← t.filterOf cond)

/-- The change a SET clause whose columns are found makes to a row: each value converted against its
column and placed at its position, in the order written. -/
def assignValues (targets : List (Nat × Column × String)) : RowUpdate := fun row =>
  targets.foldlM (fun r (i, c, text) => (Value.coerce c text).map (r.set i)) row

/-- Applies a SET clause to the rows that satisfy the WHERE clause: the table afterwards, and
the number of rows changed or the first error. -/
def update (t : Table) (assignments : List Assignment) (cond : Option Comparison) :
    Table × Except Error Nat :=
  let targets := assignments.mapM fun a =>
    (t.column a.column).map fun (i, c) => (i, c, a.value)
  match targets with
  | .error e => (t, .error e)
  | .ok targets =>
    match t.filterOf cond with
    | .error e => (t, .error e)
    | .ok f =>
      let (store, result) := t.store.update f (assignValues targets)
      ({ t with store }, result)

end Table

end TinySql
