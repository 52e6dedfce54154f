import TinySql.Value

/-!
The row store behind a table: rows in insertion order, with no knowledge of SQL. Rows are
chosen by a filter and changed by an update, both of which may fail. Updates and deletions
visit rows one at a time in order; when a filter or an update fails on a row, the error is
returned and the rows visited before it keep their new state while it and every later row
stay as they were.
-/

namespace TinySql

/-- A test on a row, which may fail. -/
abbrev RowFilter := Row → Except Error Bool

/-- A change to a row, which may fail. -/
abbrev RowUpdate := Row → Except Error Row

/-- Rows in insertion order. -/
structure Store where
  rows : List Row
  deriving DecidableEq, Repr

namespace Store

def empty : Store := ⟨[]⟩

def count (s : Store) : Nat := s.rows.length

def insert (s : Store) (r : Row) : Store := ⟨s.rows ++ [r]⟩

/-- The rows the filter accepts, in order, or the filter's first error. -/
def scan (s : Store) (f : RowFilter) : Except Error (List Row) := s.rows.filterM f

/-- Changes the accepted rows of a list in order: the new rows, and the number changed or
the first error, with the rows from the failing one on left as they were. -/
def updateRows (f : RowFilter) (u : RowUpdate) : List Row → List Row × Except Error Nat
  | [] => ([], .ok 0)
  | r :: rs =>
    match f r with
    | .error e => (r :: rs, .error e)
    | .ok false =>
      let (rest, result) := updateRows f u rs
      (r :: rest, result)
    | .ok true =>
      match u r with
      | .error e => (r :: rs, .error e)
      | .ok r' =>
        let (rest, result) := updateRows f u rs
        (r' :: rest, result.map (· + 1))

/-- Removes the accepted rows of a list in order: the rows kept, and the number removed or
the first error, with the rows from the failing one on kept as they were. -/
def deleteRows (f : RowFilter) : List Row → List Row × Except Error Nat
  | [] => ([], .ok 0)
  | r :: rs =>
    match f r with
    | .error e => (r :: rs, .error e)
    | .ok true =>
      let (rest, result) := deleteRows f rs
      (rest, result.map (· + 1))
    | .ok false =>
      let (rest, result) := deleteRows f rs
      (r :: rest, result)

/-- Changes every row the filter accepts; see `updateRows`. -/
def update (s : Store) (f : RowFilter) (u : RowUpdate) : Store × Except Error Nat :=
  let (rows, result) := updateRows f u s.rows
  (⟨rows⟩, result)

/-- Removes every row the filter accepts; see `deleteRows`. -/
def delete (s : Store) (f : RowFilter) : Store × Except Error Nat :=
  let (rows, result) := deleteRows f s.rows
  (⟨rows⟩, result)

end Store

end TinySql
