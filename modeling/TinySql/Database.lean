import TinySql.Table
import TinySql.QueryResult
import TinySql.Snapshot
import TinySql.Sql.Parser

/-!
The database: its tables in creation order, names unique up to letter case. A statement names
a table in any letter case; the table whose name has the same full lowercase is meant.
`execute` runs a parsed statement and returns the database afterwards with the result or the
error; a statement that fails changes nothing, except an UPDATE that fails on a later row,
which keeps the rows it changed before it.
-/

namespace TinySql

open Sql

/-- Tables in creation order. -/
structure Database where
  tables : List Table
  deriving DecidableEq, Repr

namespace Database

def empty : Database := ⟨[]⟩

/-- The table a name denotes, up to letter case. -/
def find? (db : Database) (name : String) : Option Table :=
  db.tables.find? fun t => Schema.sameName t.name name

/-- Whether a name denotes a table, up to letter case. -/
def hasTable (db : Database) (name : String) : Bool := (db.find? name).isSome

/-- The table a name denotes, or `tableNotFound` with the name as given. -/
def get (db : Database) (name : String) : Except Error Table :=
  match db.find? name with
  | some t => .ok t
  | none => .error (.tableNotFound name)

/-- The tables' names as written at creation, in creation order. -/
def tableNames (db : Database) : List String := db.tables.map (·.name)

/-- The database with the table a name denotes replaced. -/
def replace (db : Database) (name : String) (t : Table) : Database :=
  ⟨replaceFirst db.tables⟩
where
  replaceFirst : List Table → List Table
    | [] => []
    | u :: us => if Schema.sameName u.name name then t :: us else u :: replaceFirst us

/-- Adds an empty table with the schema at the end, unless its name is taken in any case. -/
def register (db : Database) (s : Schema) : Except Error Database :=
  if db.hasTable s.name then .error (.tableAlreadyExists s.name)
  else .ok ⟨db.tables ++ [Table.empty s]⟩

def snapshot (db : Database) : Snapshot :=
  ⟨db.tables.map fun t => ⟨t.schema, UInt64.ofNat t.rowCount⟩⟩

/-- Registers the tables of a snapshot, empty, in order; fails on the first entry whose name
is taken. -/
def ofSnapshot (s : Snapshot) : Except Error Database :=
  s.tables.foldlM (fun db e => db.register e.schema) empty

/-- Runs a SELECT: finds the table, then the WHERE column, then scans, then finds the
projected columns. -/
def select (db : Database) (proj : Projection) (name : String) (cond : Option Comparison) :
    Except Error QueryResult := do
  let t ← db.get name
  let rows ← t.select cond
  match proj with
  | .all => pure (.ofRows t.schema.columnNames rows)
  | .columns names =>
    let cols ← names.mapM t.column
    pure (.ofRows (cols.map (·.2.name)) (rows.map (·.project (cols.map (·.1)))))

/-- Runs a parsed statement: the database afterwards, and the result or the error. -/
def execute (db : Database) : Statement → Database × Except Error QueryResult
  | .createTable name columns =>
    match db.register ⟨name, columns⟩ with
    | .ok db' => (db', .ok (.ofMessage ("Table '" ++ name ++ "' created")))
    | .error e => (db, .error e)
  | .insert name values =>
    match db.get name >>= (·.insertRow values) with
    | .ok t => (db.replace name t, .ok (.ofAffected 1 "1 row(s) inserted"))
    | .error e => (db, .error e)
  | .select proj name cond => (db, db.select proj name cond)
  | .update name assignments cond =>
    match db.get name with
    | .error e => (db, .error e)
    | .ok t =>
      let (t', result) := t.update assignments cond
      (db.replace name t', result.map fun n => .ofAffected n (Nat.repr n ++ " row(s) updated"))

/-- Lexes, parses and runs one statement. -/
def runSql (db : Database) (sql : String) : Database × Except Error QueryResult :=
  match parse sql with
  | .ok stmt => db.execute stmt
  | .error e => (db, .error e)

end Database

end TinySql
