import TinySql.Database
import TinySql.Proofs.Except

/-!
What INSERT does, stated apart from the code that does it. The checks come in a fixed order:
the table, then the number of values, then each value in column order; the first that fails
gives the error and nothing is stored. When all pass, one row of the converted values is added
at the end of the table, the text of a VARCHAR value kept as written.
-/

namespace TinySql

open Sql

theorem Value.coerce_eq_error_iff {c : Column} {v : String} {e : Error} :
    Value.coerce c v = .error e ↔
      (c.type = .int ∧ Text.parseInt64? v = none ∧ e = .invalidInteger c.name v) ∨
        ∃ m, c.type = .varchar m ∧ m.toNat < v.length ∧ e = .valueTooLong c.name m v := by
  rcases c with ⟨name, _ | m⟩
  · cases hv : Text.parseInt64? v <;> simp [Value.coerce, hv, eq_comm]
  · by_cases hlen : v.length ≤ m.toNat
    · have hfit : ¬m.toNat < v.length := by omega
      simp [Value.coerce, hlen, hfit]
    · simp [Value.coerce, hlen, eq_comm, Nat.lt_of_not_le hlen]

namespace Database

/-- What an INSERT of `values` into the table `name` is to do. The table must exist and have as
many columns as there are values, and each value must convert to its column's type, the first
that does not, in column order, giving the error; then the row of the converted values is added
at the end of the table. -/
def insertOutcome (db : Database) (name : String) (values : List String) :
    Database × Except Error QueryResult :=
  match db.find? name with
  | none => (db, .error (.tableNotFound name))
  | some t =>
    if values.length ≠ t.schema.columns.length then
      (db, .error (.columnCountMismatch t.schema.columns.length values.length))
    else
      let converted := (t.schema.columns.zip values).map fun (c, v) => Value.coerce c v
      match firstError converted with
      | some e => (db, .error e)
      | none =>
        (db.replace name ⟨t.schema, ⟨t.store.rows ++ [⟨converted.filterMap Except.toOption⟩]⟩⟩,
          .ok (.ofAffected 1 "1 row(s) inserted"))

theorem get_of_find? {db : Database} {name : String} {t : Table} (h : db.find? name = some t) :
    db.get name = .ok t := by
  simp [get, h]

theorem get_of_find?_none {db : Database} {name : String} (h : db.find? name = none) :
    db.get name = .error (.tableNotFound name) := by
  simp [get, h]

theorem execute_insert (db : Database) (name : String) (values : List String) :
    db.execute (.insert name values) = db.insertOutcome name values := by
  unfold insertOutcome
  cases hfind : db.find? name with
  | none => simp [execute, get_of_find?_none hfind, bind, Except.bind]
  | some t =>
    have hget := get_of_find? hfind
    by_cases hlen : values.length = t.schema.columns.length
    · -- the conversions run in column order and stop at the first failure
      cases hfirst : firstError ((t.schema.columns.zip values).map fun p => Value.coerce p.1 p.2) with
      | some e =>
        simp [execute, hget, Table.insertRow, hlen, hfirst, mapM_eq_error_of_firstError _ hfirst,
          bind, Except.bind]
      | none =>
        simp [execute, hget, Table.insertRow, hlen, hfirst, mapM_eq_ok_of_firstError _ hfirst,
          bind, Except.bind, pure, Except.pure, Store.insert]
    · simp [execute, hget, Table.insertRow, hlen, bind, Except.bind]

end Database

open Database in
/-- INSERT checks the table, then the number of values, then each value in column order, and
fails with the first check that does not hold, leaving the database as it was; otherwise it adds
one row of the converted values at the end of the table and reports one row. A value fails to
convert to an INT column when it is not a 64-bit integer, and to a VARCHAR(n) column when it has
more than `n` characters. -/
theorem runSql_insert_outcome {db : Database} {sql name : String} {values : List String}
    (hsql : parse sql = .ok (.insert name values)) :
    db.runSql sql = db.insertOutcome name values ∧
      ∀ c v e, Value.coerce c v = .error e ↔
        (c.type = .int ∧ Text.parseInt64? v = none ∧ e = .invalidInteger c.name v) ∨
          ∃ m, c.type = .varchar m ∧ m.toNat < v.length ∧ e = .valueTooLong c.name m v := by
  refine ⟨?_, fun c v e => Value.coerce_eq_error_iff⟩
  rw [runSql, hsql]
  exact execute_insert db name values

/-- A text of four characters does not go into a VARCHAR(3) column: the insert fails with the
column's name and bound, and the table stays empty. -/
theorem insert_overlong_text :
    let db := (Database.empty.runSql "CREATE TABLE t (a INT, b VARCHAR(3));").1
    let sql := "INSERT INTO t VALUES (7, 'wxyz');"
    parse sql = .ok (.insert "t" ["7", "wxyz"]) ∧
      (db.runSql sql = db.insertOutcome "t" ["7", "wxyz"] ∧
        ∀ c v e, Value.coerce c v = .error e ↔
          (c.type = .int ∧ Text.parseInt64? v = none ∧ e = .invalidInteger c.name v) ∨
            ∃ m, c.type = .varchar m ∧ m.toNat < v.length ∧ e = .valueTooLong c.name m v) ∧
      (db.insertOutcome "t" ["7", "wxyz"]).1 = db ∧
      (db.insertOutcome "t" ["7", "wxyz"]).2.mapError Error.message =
        .error "Type error: column 'b' is VARCHAR(3) but value 'wxyz' is too long" := by
  intro db sql
  have hparse : parse sql = .ok (.insert "t" ["7", "wxyz"]) := eq_ok_of_toOption (by decide +kernel)
  exact ⟨hparse, runSql_insert_outcome hparse, by decide +kernel, by decide +kernel⟩

end TinySql
