import TinySql.Schema
import TinySql.Json.Escape

/-!
Snapshots: the schema and row count of every table, in creation order, written as indented
JSON. Row contents are not part of a snapshot. The text has two spaces of indentation per
level, one member or element per line, `[]` for an empty list, a type as `"Int"` or
`{"Varchar": n}`, and no newline at the end.
-/

namespace TinySql

/-- One table of a snapshot. -/
structure TableEntry where
  schema : Schema
  rowCount : UInt64
  deriving DecidableEq, Repr

/-- The tables of a database in creation order. -/
structure Snapshot where
  tables : List TableEntry
  deriving DecidableEq, Repr

namespace Snapshot

/-- Two spaces per level. -/
def indent (depth : Nat) : String := String.ofList (List.replicate (2 * depth) ' ')

/-- A bracketed block at `depth` whose items are already written for `depth + 1`: each item on
its own line, or the brackets alone when there is none. -/
def block (openMark closeMark : String) (depth : Nat) (items : List String) : String :=
  if items.isEmpty then openMark ++ closeMark
  else
    openMark ++ "\n" ++ ",\n".intercalate (items.map (indent (depth + 1) ++ ·)) ++ "\n" ++
      indent depth ++ closeMark

/-- An object at `depth` from its members, values already written for `depth + 1`. -/
def object (depth : Nat) (members : List (String × String)) : String :=
  block "\x7b" "\x7d" depth (members.map fun (k, v) => Json.stringLiteral k ++ ": " ++ v)

def typeText (depth : Nat) : DataType → String
  | .int => "\"Int\""
  | .varchar n => object depth [("Varchar", Nat.repr n.toNat)]

def columnText (depth : Nat) (c : Column) : String :=
  object depth [("name", Json.stringLiteral c.name), ("data_type", typeText (depth + 1) c.type)]

def schemaText (depth : Nat) (s : Schema) : String :=
  object depth [("table_name", Json.stringLiteral s.name),
    ("columns", block "[" "]" (depth + 1) (s.columns.map (columnText (depth + 2))))]

def entryText (depth : Nat) (e : TableEntry) : String :=
  object depth [("schema", schemaText (depth + 1) e.schema),
    ("row_count", Nat.repr e.rowCount.toNat)]

/-- The snapshot as indented JSON. -/
def toJson (s : Snapshot) : String :=
  object 0 [("tables", block "[" "]" 1 (s.tables.map (entryText 2)))]

example : toJson ⟨[]⟩ = "\x7b\n  \"tables\": []\n\x7d" := by decide

end Snapshot

end TinySql
