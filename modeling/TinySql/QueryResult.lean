import TinySql.Value

/-!
What a statement returns, and its text. A result either carries a message (CREATE, INSERT,
UPDATE), shown as that line, or columns and rows (SELECT), shown as a table: each column as
wide as its widest cell, names centred (an odd space to the right), values right-aligned,
rules of `-` and `+` above and below the header and under the rows, then the row count.
-/

namespace TinySql

/-- The result of a statement. -/
structure QueryResult where
  columns : List String
  rows : List Row
  affected : Nat
  message : Option String
  deriving DecidableEq, Repr

namespace QueryResult

def ofMessage (m : String) : QueryResult := ⟨[], [], 0, some m⟩

def ofAffected (n : Nat) (m : String) : QueryResult := ⟨[], [], n, some m⟩

def ofRows (columns : List String) (rows : List Row) : QueryResult := ⟨columns, rows, 0, none⟩

def repeatChar (c : Char) (n : Nat) : String := String.ofList (List.replicate n c)

/-- A text centred in `w` characters; the odd space goes to the right. -/
def center (s : String) (w : Nat) : String :=
  let pad := w - s.length
  repeatChar ' ' (pad / 2) ++ s ++ repeatChar ' ' (pad - pad / 2)

def alignRight (s : String) (w : Nat) : String := repeatChar ' ' (w - s.length) ++ s

/-- Column widths grown to fit a row's values; values past the last column are ignored. -/
def widen (widths : List Nat) (r : Row) : List Nat :=
  widths.mapIdx fun i w =>
    match r.values[i]? with
    | some v => max w v.display.length
    | none => w

/-- The width of each column: its widest name or value. -/
def widths (r : QueryResult) : List Nat := r.rows.foldl widen (r.columns.map String.length)

/-- A table line: cells between bars, each with a space on both sides. -/
def line (cells : List String) : String :=
  "|" ++ "|".intercalate (cells.map fun c => " " ++ c ++ " ") ++ "|\n"

/-- The result as text: the message line, or the table and the row count. -/
def render (r : QueryResult) : String :=
  match r.message with
  | some m => m ++ "\n"
  | none =>
    let ws := r.widths
    let rule := "+" ++ "+".intercalate (ws.map fun w => repeatChar '-' (w + 2)) ++ "+\n"
    let header := line ((r.columns.zip ws).map fun (c, w) => center c w)
    let body := r.rows.map fun row => line ((row.values.zip ws).map fun (v, w) => alignRight v.display w)
    rule ++ header ++ rule ++ String.join body ++ (if r.rows.isEmpty then "" else rule) ++
      Nat.repr r.rows.length ++ " row(s) returned\n"

end QueryResult

end TinySql
