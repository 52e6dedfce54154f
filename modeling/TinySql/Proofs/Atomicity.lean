import TinySql.Proofs.WellTyped

/-!
A statement either takes effect or leaves the database as it was. Parse errors, catalog
errors and conversion errors are raised before anything is written, except in one place: the
row store changes rows one at a time and keeps the rows it changed before a failure. That
never shows at the level of SQL, because in a reachable database both ways an UPDATE can fail
on a row fail on every row alike. The WHERE comparison fails only when its column is INT and
its literal is not an integer, which every row of the table shares; a SET value fails to
convert by its column and text alone. So the first row that could change is the first that
fails, and nothing has changed by then.

On success only the table the statement names, up to letter case, can change, and CREATE TABLE
only adds an empty table at the end.
-/

namespace TinySql

open Sql

namespace Store

/-- A test or a change on rows that fails on every row of a list or on none. -/
def FailsAlike {β : Type} (g : Row → Except Error β) (rows : List Row) : Prop :=
  ∀ r ∈ rows, ∀ r' ∈ rows, (g r).isOk = (g r').isOk

theorem FailsAlike.of_cons {β : Type} {g : Row → Except Error β} {r : Row} {rs : List Row}
    (h : FailsAlike g (r :: rs)) : FailsAlike g rs :=
  fun a ha b hb => h a (List.mem_cons_of_mem r ha) b (List.mem_cons_of_mem r hb)

theorem updateRows_error_source {f : RowFilter} {u : RowUpdate} :
    ∀ {rows rows' : List Row} {e : Error}, updateRows f u rows = (rows', .error e) →
      ∃ r ∈ rows, (f r).isOk = false ∨ (u r).isOk = false
  | [], _, _, h => by simp [updateRows] at h
  | r :: rs, rows', e, h => by
    unfold updateRows at h
    split at h
    · rename_i e' hf
      exact ⟨r, List.mem_cons_self, .inl (by rw [hf]; rfl)⟩
    · rcases hrs : updateRows f u rs with ⟨rest, result⟩
      rw [hrs] at h
      simp only [Prod.mk.injEq] at h
      obtain ⟨-, rfl⟩ := h
      obtain ⟨r₀, hr₀, hfail⟩ := updateRows_error_source hrs
      exact ⟨r₀, List.mem_cons_of_mem r hr₀, hfail⟩
    · split at h
      · rename_i e' hu
        exact ⟨r, List.mem_cons_self, .inr (by rw [hu]; rfl)⟩
      · rcases hrs : updateRows f u rs with ⟨rest, result⟩
        rw [hrs] at h
        simp only [Prod.mk.injEq] at h
        obtain ⟨-, hres⟩ := h
        cases result with
        | ok n => cases hres
        | error e' =>
          obtain ⟨r₀, hr₀, hfail⟩ := updateRows_error_source hrs
          exact ⟨r₀, List.mem_cons_of_mem r hr₀, hfail⟩

theorem updateRows_error_unchanged {f : RowFilter} {u : RowUpdate} :
    ∀ {rows rows' : List Row} {e : Error}, FailsAlike f rows → FailsAlike u rows →
      updateRows f u rows = (rows', .error e) → rows' = rows
  | [], _, _, _, _, h => by simp [updateRows] at h
  | r :: rs, rows', e, hf, hu, h => by
    unfold updateRows at h
    split at h
    · exact (Prod.mk.inj h).1.symm
    · rcases hrs : updateRows f u rs with ⟨rest, result⟩
      rw [hrs] at h
      simp only [Prod.mk.injEq] at h
      obtain ⟨rfl, rfl⟩ := h
      rw [updateRows_error_unchanged hf.of_cons hu.of_cons hrs]
    · rename_i hfr
      split at h
      · exact (Prod.mk.inj h).1.symm
      · rename_i r₁ hur
        rcases hrs : updateRows f u rs with ⟨rest, result⟩
        rw [hrs] at h
        simp only [Prod.mk.injEq] at h
        obtain ⟨-, hres⟩ := h
        cases result with
        | ok n => cases hres
        | error e' =>
          -- a later row failed, so by uniformity this row failed too: a contradiction
          obtain ⟨r₀, hr₀, hfail⟩ := updateRows_error_source hrs
          have hr₀' : r₀ ∈ r :: rs := List.mem_cons_of_mem r hr₀
          rcases hfail with hfail | hfail
          · have := hf r List.mem_cons_self r₀ hr₀'
            rw [hfr, hfail] at this
            cases this
          · have := hu r List.mem_cons_self r₀ hr₀'
            rw [hur, hfail] at this
            cases this

end Store

namespace Table

theorem comparisonFilter_isOk {cols : List Column} {r : Row} (hr : r.Fits cols) {i : Nat}
    {col : Column} (hc : cols[i]? = some col) (c : Comparison) :
    (comparisonFilter i c r).isOk = (col.type != .int || (Text.parseInt64? c.literal).isSome) := by
  obtain ⟨v, hv, hadm⟩ := exists_of_forall₂_getElem? hr hc
  have hget : r.get? i = some v := hv
  simp only [comparisonFilter, hget]
  cases htype : col.type with
  | int =>
    rw [htype, DataType.admits_int] at hadm
    obtain ⟨n, rfl⟩ := hadm
    cases hlit : Text.parseInt64? c.literal <;> simp [Value.compareLiteral, hlit, Except.map] <;> rfl
  | varchar m =>
    rw [htype, DataType.admits_varchar] at hadm
    obtain ⟨s, rfl, -⟩ := hadm
    simp [Value.compareLiteral, Except.map]
    rfl

theorem filterOf_failsAlike {t : Table} (ht : t.WellTyped) {cond : Option Comparison}
    {f : RowFilter} (h : t.filterOf cond = .ok f) : Store.FailsAlike f t.store.rows := by
  cases cond with
  | none =>
    simp only [filterOf, Except.ok.injEq] at h
    subst h
    intro r _ r' _
    rfl
  | some c =>
    simp only [filterOf, filterFor] at h
    obtain ⟨⟨i, col⟩, hcol, hf⟩ := except_bind_eq_ok.1 h
    simp only [pure, Except.pure, Except.ok.injEq] at hf
    subst hf
    have hc := column_getElem? hcol
    intro r hr r' hr'
    rw [comparisonFilter_isOk (ht r hr) hc, comparisonFilter_isOk (ht r' hr') hc]

/-- Whether a SET clause converts depends on its targets alone, never on the row. -/
theorem assignValues_isOk :
    ∀ (targets : List (Nat × Column × String)) (r r' : Row),
      (assignValues targets r).isOk = (assignValues targets r').isOk
  | [], _, _ => rfl
  | (i, c, x) :: targets, r, r' => by
    rw [assignValues_cons, assignValues_cons]
    cases Value.coerce c x with
    | error e => rfl
    | ok v => exact assignValues_isOk targets (r.set i v) (r'.set i v)

theorem update_error_unchanged {t : Table} (ht : t.WellTyped) {assignments : List Assignment}
    {cond : Option Comparison} {e : Error} (h : (t.update assignments cond).2 = .error e) :
    (t.update assignments cond).1 = t := by
  rcases hupd : t.update assignments cond with ⟨t', result⟩
  rw [hupd] at h
  dsimp only at h ⊢
  subst h
  unfold update at hupd
  dsimp only at hupd
  split at hupd
  · exact (Prod.mk.inj hupd).1.symm
  · rename_i targets _
    split at hupd
    · exact (Prod.mk.inj hupd).1.symm
    · rename_i f hf
      rcases hrows : Store.updateRows f (assignValues targets) t.store.rows with ⟨rows, result⟩
      simp only [Store.update, hrows, Prod.mk.injEq] at hupd
      obtain ⟨rfl, rfl⟩ := hupd
      have hu : Store.FailsAlike (assignValues targets) t.store.rows :=
        fun r _ r' _ => assignValues_isOk targets r r'
      rw [Store.updateRows_error_unchanged (filterOf_failsAlike ht hf) hu hrows]

end Table

/-- What a statement that succeeded may change: CREATE TABLE adds an empty table at the end,
SELECT changes nothing, and INSERT and UPDATE change the rows of the one table the statement
names, up to letter case, and keep every other table, every schema and every position. -/
def Sql.Statement.Allows (stmt : Statement) (db db' : Database) : Prop :=
  match stmt with
  | .createTable name columns => db'.tables = db.tables ++ [Table.empty ⟨name, columns⟩]
  | .select .. => db' = db
  | .insert name _ | .update name _ _ =>
    List.Forall₂ (fun t t' => t' = t ∨ (Schema.sameName t.name name = true ∧ t'.schema = t.schema))
      db.tables db'.tables

namespace Database

theorem replaceFirst_found {name : String} {t : Table} :
    ∀ {ts : List Table}, ts.find? (fun u => Schema.sameName u.name name) = some t →
      replace.replaceFirst name t ts = ts
  | [], h => by simp at h
  | u :: us, h => by
    rw [List.find?_cons] at h
    simp only [replace.replaceFirst]
    split
    · rename_i hu
      simp only [hu, Option.some.injEq] at h
      rw [h]
    · rename_i hu
      simp only [hu] at h
      rw [replaceFirst_found h]

theorem replace_get {db : Database} {name : String} {t : Table} (h : db.get name = .ok t) :
    db.replace name t = db := by
  unfold get find? at h
  split at h
  · rename_i found hf
    cases h
    simp only [replace, replaceFirst_found hf]
  · cases h

theorem replaceFirst_frame {name : String} {t₀ t : Table} (hs : t.schema = t₀.schema) :
    ∀ {ts : List Table}, ts.find? (fun u => Schema.sameName u.name name) = some t₀ →
      List.Forall₂ (fun u u' => u' = u ∨ (Schema.sameName u.name name = true ∧ u'.schema = u.schema))
        ts (replace.replaceFirst name t ts)
  | [], h => by simp at h
  | u :: us, h => by
    rw [List.find?_cons] at h
    simp only [replace.replaceFirst]
    split
    · rename_i hu
      simp only [hu, Option.some.injEq] at h
      subst h
      exact .cons (.inr ⟨hu, hs⟩) (List.forall₂_same.2 fun _ _ => .inl rfl)
    · rename_i hu
      simp only [hu] at h
      exact .cons (.inl rfl) (replaceFirst_frame hs h)

theorem replace_frame {db : Database} {name : String} {t₀ t : Table} (h : db.get name = .ok t₀)
    (hs : t.schema = t₀.schema) :
    List.Forall₂ (fun u u' => u' = u ∨ (Schema.sameName u.name name = true ∧ u'.schema = u.schema))
      db.tables (db.replace name t).tables := by
  unfold get find? at h
  split at h
  · rename_i found hf
    cases h
    exact replaceFirst_frame hs hf
  · cases h

theorem execute_error_unchanged {db : Database} (hdb : db.WellTyped) {stmt : Statement}
    {e : Error} (h : (db.execute stmt).2 = .error e) : (db.execute stmt).1 = db := by
  cases stmt with
  | createTable name columns =>
    simp only [execute] at h ⊢
    split at h
    · cases h
    · rfl
  | insert name values =>
    simp only [execute] at h ⊢
    split at h
    · cases h
    · rfl
  | select proj name cond => rfl
  | update name assignments cond =>
    simp only [execute] at h ⊢
    split at h
    · rfl
    · rename_i t hget
      rcases hupd : t.update assignments cond with ⟨t', result⟩
      rw [hupd] at h
      dsimp only at h ⊢
      -- the count is mapped into a result, so the update itself failed
      cases result with
      | ok n => cases h
      | error e' =>
        have hfail : (t.update assignments cond).2 = .error e' := by rw [hupd]
        have ht' : t' = t := by
          have := Table.update_error_unchanged (hdb t (mem_of_get hget)) hfail
          rwa [hupd] at this
        rw [ht', replace_get hget]

theorem execute_allows {db : Database} {stmt : Statement} {r : QueryResult}
    (h : (db.execute stmt).2 = .ok r) : stmt.Allows db (db.execute stmt).1 := by
  cases stmt with
  | createTable name columns =>
    simp only [execute] at h ⊢
    split at h
    · rename_i db' hreg
      exact register_tables hreg
    · cases h
  | insert name values =>
    simp only [execute] at h ⊢
    split at h
    · rename_i t' hins
      obtain ⟨t, hget, hrow⟩ := except_bind_eq_ok.1 hins
      exact replace_frame hget (Table.insertRow_schema hrow)
    · cases h
  | select proj name cond => rfl
  | update name assignments cond =>
    simp only [execute] at h ⊢
    split at h
    · cases h
    · rename_i t hget
      exact replace_frame hget (Table.update_schema t assignments cond)

end Database

open Database in
/-- Running SQL on a reachable database is all or nothing: a text that fails for any reason
(it does not parse, names a missing table or column, or has a value that does not convert or
compare) leaves the database exactly as it was; one that succeeds changes only what its
statement allows. -/
theorem runSql_all_or_nothing {db : Database} (h : db.Reachable) (sql : String) :
    (∀ e, (db.runSql sql).2 = .error e → (db.runSql sql).1 = db) ∧
      ∀ stmt r, parse sql = .ok stmt → (db.runSql sql).2 = .ok r →
        stmt.Allows db (db.runSql sql).1 := by
  constructor
  · intro e he
    cases hparse : parse sql with
    | ok stmt =>
      simp only [runSql, hparse] at he ⊢
      exact execute_error_unchanged h.wellTyped he
    | error e' => simp only [runSql, hparse]
  · intro stmt r hparse hr
    unfold runSql at hr ⊢
    rw [hparse] at hr ⊢
    exact execute_allows hr

/-- An UPDATE whose WHERE compares an INT column with text fails on a table with rows, and the
rows stay as they were. -/
theorem failed_update_keeps_rows :
    let db := ((Database.empty.runSql "CREATE TABLE t (a INT, b VARCHAR(3));").1.runSql
      "INSERT INTO t VALUES (7, 'xy');").1
    let sql := "UPDATE t SET b = 'z' WHERE a = 'x';"
    db.Reachable ∧ (db.runSql sql).2.isOk = false ∧
      (∀ e, (db.runSql sql).2 = .error e → (db.runSql sql).1 = db) ∧
      ∀ stmt r, parse sql = .ok stmt → (db.runSql sql).2 = .ok r →
        stmt.Allows db (db.runSql sql).1 := by
  intro db sql
  have reach : db.Reachable := .run _ (.run _ .empty)
  exact ⟨reach, by decide +kernel, runSql_all_or_nothing reach sql⟩

end TinySql
