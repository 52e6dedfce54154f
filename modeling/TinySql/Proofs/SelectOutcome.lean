import TinySql.Proofs.InsertOutcome
import TinySql.Proofs.WellTyped

/-!
What a WHERE clause keeps, and what SELECT returns. A WHERE clause is checked against the table
once, before any row is read: its column must be one of the table's, and comparing an INT column
with a literal that is not an integer fails as soon as the table has a row, since every row holds
an integer there. Otherwise it keeps exactly the rows whose value compares with the literal as the
operator asks. SELECT then finds the projected columns, in the order listed, the first missing
one being the error; the projection is asked for only after the scan, so a failing scan hides a
missing projected column.
-/

namespace TinySql

open Sql

/-- Whether a row satisfies `column op literal` with the column at position `i`: the value there
compares with the literal as the operator asks. A row with no value there, or whose value does not
compare with the literal, does not satisfy it. -/
def Row.satisfies (r : Row) (i : Nat) (c : Comparison) : Bool :=
  match r.values[i]? with
  | some v =>
    match v.compareLiteral c.column c.literal with
    | .ok o => c.op.holds o
    | .error _ => false
  | none => false

namespace Table

/-- The rows a WHERE clause keeps, or why it cannot be evaluated on the table: its column must be
one of the table's, and comparing an INT column needs an integer literal, which is asked only when
the table has a row. No clause keeps every row. -/
def whereTest (t : Table) : Option Comparison → Except Error (Row → Bool)
  | none => .ok fun _ => true
  | some c =>
    match t.schema.lookup? c.column with
    | none => .error (.columnNotFound c.column t.name)
    | some (i, col) =>
      if t.store.rows ≠ [] ∧ col.type = .int ∧ Text.parseInt64? c.literal = none then
        .error (.nonNumericComparison c.column c.literal)
      else .ok fun r => r.satisfies i c

theorem column_eq (t : Table) (name : String) :
    t.column name = match t.schema.lookup? name with
      | some found => .ok found
      | none => .error (.columnNotFound name t.name) := rfl

theorem comparisonFilter_of_fits {cols : List Column} {r : Row} (hr : r.Fits cols) {i : Nat}
    {col : Column} (hc : cols[i]? = some col) {c : Comparison}
    (hlit : col.type = .int → (Text.parseInt64? c.literal).isSome) :
    comparisonFilter i c r = .ok (r.satisfies i c) := by
  obtain ⟨v, hv, hadm⟩ := exists_of_forall₂_getElem? hr hc
  have hget : r.get? i = some v := hv
  simp only [comparisonFilter, Row.satisfies, hget, hv]
  cases htype : col.type with
  | int =>
    rw [htype, DataType.admits_int] at hadm
    obtain ⟨n, rfl⟩ := hadm
    obtain ⟨m, hm⟩ := Option.isSome_iff_exists.1 (hlit htype)
    simp [Value.compareLiteral, hm, Except.map]
  | varchar m =>
    rw [htype, DataType.admits_varchar] at hadm
    obtain ⟨s, rfl, -⟩ := hadm
    simp [Value.compareLiteral, Except.map]

theorem comparisonFilter_nonNumeric {cols : List Column} {r : Row} (hr : r.Fits cols) {i : Nat}
    {col : Column} (hc : cols[i]? = some col) {c : Comparison} (hint : col.type = .int)
    (hlit : Text.parseInt64? c.literal = none) :
    comparisonFilter i c r = .error (.nonNumericComparison c.column c.literal) := by
  obtain ⟨v, hv, hadm⟩ := exists_of_forall₂_getElem? hr hc
  have hget : r.get? i = some v := hv
  rw [hint, DataType.admits_int] at hadm
  obtain ⟨n, rfl⟩ := hadm
  simp [comparisonFilter, hget, Value.compareLiteral, hlit, Except.map]

theorem filterOf_cases {t : Table} (ht : t.WellTyped) (cond : Option Comparison) :
    (∃ e, t.filterOf cond = .error e ∧ t.whereTest cond = .error e) ∨
    (∃ f e, t.filterOf cond = .ok f ∧ t.whereTest cond = .error e ∧ t.store.rows ≠ [] ∧
      ∀ r ∈ t.store.rows, f r = .error e) ∨
    (∃ f keep, t.filterOf cond = .ok f ∧ t.whereTest cond = .ok keep ∧
      ∀ r ∈ t.store.rows, f r = .ok (keep r)) := by
  cases cond with
  | none => exact .inr (.inr ⟨_, _, rfl, rfl, fun _ _ => rfl⟩)
  | some c =>
    cases hl : t.schema.lookup? c.column with
    | none =>
      refine .inl ⟨.columnNotFound c.column t.name, ?_, ?_⟩ <;>
        simp [filterOf, filterFor, whereTest, column_eq, hl, bind, Except.bind]
    | some found =>
      obtain ⟨i, col⟩ := found
      have hcol : t.column c.column = .ok (i, col) := by simp [column_eq, hl]
      have hc : t.schema.columns[i]? = some col := column_getElem? hcol
      have hfilter : t.filterOf (some c) = .ok (comparisonFilter i c) := by
        simp [filterOf, filterFor, hcol, bind, Except.bind, pure, Except.pure]
      by_cases hbad : t.store.rows ≠ [] ∧ col.type = .int ∧ Text.parseInt64? c.literal = none
      · obtain ⟨hne, hint, hlit⟩ := hbad
        refine .inr (.inl ⟨_, .nonNumericComparison c.column c.literal, hfilter, ?_, hne,
          fun r hr => ?_⟩)
        · simp [whereTest, hl, hne, hint, hlit]
        · exact comparisonFilter_nonNumeric (ht r hr) hc hint hlit
      · refine .inr (.inr ⟨_, fun r => r.satisfies i c, hfilter, by simp [whereTest, hl, hbad],
          fun r hr => ?_⟩)
        refine comparisonFilter_of_fits (ht r hr) hc fun hint => ?_
        -- a table with a row and an INT column: the literal must be an integer
        have hne : t.store.rows ≠ [] := List.ne_nil_of_mem hr
        cases hlit : Text.parseInt64? c.literal with
        | none => exact absurd ⟨hne, hint, hlit⟩ hbad
        | some m => rfl

theorem select_eq_whereTest {t : Table} (ht : t.WellTyped) (cond : Option Comparison) :
    t.select cond = (t.whereTest cond).map fun keep => t.store.rows.filter keep := by
  rcases filterOf_cases ht cond with ⟨e, hf, hw⟩ | ⟨f, e, hf, hw, hne, herr⟩ | ⟨f, keep, hf, hw, hok⟩
  · simp [select, hf, hw, bind, Except.bind, Except.map]
  · obtain ⟨r, rs, hrows⟩ := List.exists_cons_of_ne_nil hne
    have hr : f r = .error e := herr r (by simp [hrows])
    simp [select, hf, hw, Store.scan, hrows, filterM_cons_eq_error hr, bind, Except.bind, Except.map]
  · simp [select, hf, hw, Store.scan, filterM_eq_ok hok, bind, Except.bind, Except.map]

theorem mapM_eq_of_lookup {α β : Type} (t : Table) (key : α → String) (g : α → Nat × Column → β)
    {f : α → Except Error β}
    (hf : ∀ a, f a = match t.schema.lookup? (key a) with
      | some found => .ok (g a found)
      | none => .error (.columnNotFound (key a) t.name)) :
    ∀ l : List α, l.mapM f = match l.find? fun a => (t.schema.lookup? (key a)).isNone with
      | some a => .error (.columnNotFound (key a) t.name)
      | none => .ok (l.filterMap fun a => (t.schema.lookup? (key a)).map (g a))
  | [] => rfl
  | a :: l => by
    rw [List.mapM_cons, hf a, mapM_eq_of_lookup t key g hf l]
    cases hl : t.schema.lookup? (key a) with
    | none => simp [hl, bind, Except.bind]
    | some found =>
      cases hrest : l.find? fun a => (t.schema.lookup? (key a)).isNone <;>
        simp [hl, hrest, bind, Except.bind, pure, Except.pure]

end Table

namespace Database

/-- What a SELECT is to do. The table must exist and its WHERE clause must be evaluable on it
(`Table.whereTest`); the rows it keeps, in storage order, are then projected: for `*` onto every
column under the schema's names, for a list onto the columns the names find, in the order listed,
under the schema's spelling, the first name that finds none giving the error. -/
def selectOutcome (db : Database) (proj : Projection) (name : String) (cond : Option Comparison) :
    Except Error QueryResult :=
  match db.find? name with
  | none => .error (.tableNotFound name)
  | some t =>
    match t.whereTest cond with
    | .error e => .error e
    | .ok keep =>
      let rows := t.store.rows.filter keep
      match proj with
      | .all => .ok (.ofRows t.schema.columnNames rows)
      | .columns names =>
        match names.find? fun n => (t.schema.lookup? n).isNone with
        | some n => .error (.columnNotFound n t.name)
        | none =>
          let found := names.filterMap t.schema.lookup?
          .ok (.ofRows (found.map (·.2.name)) (rows.map (·.project (found.map (·.1)))))

theorem select_eq_outcome {db : Database} (hdb : db.WellTyped) (proj : Projection) (name : String)
    (cond : Option Comparison) : db.select proj name cond = db.selectOutcome proj name cond := by
  unfold select selectOutcome
  cases hfind : db.find? name with
  | none => simp [get_of_find?_none hfind, bind, Except.bind]
  | some t =>
    have hget := get_of_find? hfind
    have ht : t.WellTyped := hdb t (mem_of_get hget)
    simp only [hget, Table.select_eq_whereTest ht, bind, Except.bind]
    cases t.whereTest cond with
    | error e => rfl
    | ok keep =>
      cases proj with
      | all => rfl
      | columns names =>
        have hnames := Table.mapM_eq_of_lookup t id (fun _ found => found) (Table.column_eq t) names
        simp only [Except.map, id] at hnames ⊢
        rw [hnames]
        cases names.find? fun n => (t.schema.lookup? n).isNone <;> simp [pure, Except.pure]

end Database

open Database in
/-- SELECT on a reachable database changes nothing and fails, in this order: for a missing table;
for a WHERE column the table lacks; for an INT column compared with a literal that is not an
integer, when the table has a row; for the first projected name that finds no column. Otherwise it
returns the rows whose value satisfies the comparison (every row without WHERE), in storage order,
projected onto the columns named, in the order named (every column for `*`), under the schema's
spelling, with no count and no message. -/
theorem runSql_select_outcome {db : Database} (h : db.Reachable) {sql name : String}
    {proj : Projection} {cond : Option Comparison}
    (hsql : parse sql = .ok (.select proj name cond)) :
    db.runSql sql = (db, db.selectOutcome proj name cond) := by
  rw [runSql, hsql]
  simp only [execute, select_eq_outcome h.wellTyped]

/-- `SELECT B, a FROM t WHERE a > 3` on a table holding `(1, 'one')` and `(5, 'five')` returns the
second row alone, its columns swapped and named as the schema spells them. -/
theorem select_swapped_projection :
    let db := (((Database.empty.runSql "CREATE TABLE t (a INT, b VARCHAR(10));").1.runSql
      "INSERT INTO t VALUES (1, 'one');").1.runSql "INSERT INTO t VALUES (5, 'five');").1
    let sql := "SELECT B, a FROM t WHERE a > 3;"
    let stmt := Statement.select (.columns ["B", "a"]) "t" (some ⟨"a", .gt, "3"⟩)
    db.Reachable ∧ parse sql = .ok stmt ∧
      db.runSql sql = (db, db.selectOutcome (.columns ["B", "a"]) "t" (some ⟨"a", .gt, "3"⟩)) ∧
      (db.selectOutcome (.columns ["B", "a"]) "t" (some ⟨"a", .gt, "3"⟩)).toOption =
        some ⟨["b", "a"], [⟨[.text "five", .int 5]⟩], 0, none⟩ := by
  intro db sql stmt
  have reach : db.Reachable := .run _ (.run _ (.run _ .empty))
  have hparse : parse sql = .ok stmt := eq_ok_of_toOption (by decide +kernel)
  exact ⟨reach, hparse, runSql_select_outcome reach hparse, by decide +kernel⟩

end TinySql
