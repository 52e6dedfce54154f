import Mathlib.Data.List.Nodup
import TinySql.Proofs.Atomicity

/-!
The registry of tables. Each table is stored under a key, the full lowercase of its name as
written, and every lookup goes through the key of the name it is given. Registering a schema
fails exactly when its key is taken, and otherwise adds an empty table at the end; no statement
reorders, drops or renames a table. So in every reachable database the keys are pairwise
distinct, a name finds a table exactly when some table's key is the name's key, and the table
it finds is the only one with that key.
-/

namespace TinySql

open Sql

namespace Database

/-- The key each table is stored under: the full lowercase of its name as written. -/
def keys (db : Database) : List String := db.tables.map fun t => Text.lower t.name

/-- The tables' schemas, in order. -/
def schemas (db : Database) : List Schema := db.tables.map (·.schema)

theorem keys_eq_map_schemas (db : Database) :
    db.keys = db.schemas.map fun s => Text.lower s.name := by
  simp [keys, schemas, Table.name]

theorem keys_eq_of_schemas {db db' : Database} (h : db'.schemas = db.schemas) :
    db'.keys = db.keys := by
  rw [keys_eq_map_schemas, h, ← keys_eq_map_schemas]

theorem sameName_iff {a b : String} : Schema.sameName a b = true ↔ Text.lower a = Text.lower b := by
  simp [Schema.sameName]

/-! ## Lookups -/

theorem find?_isSome_iff {db : Database} {name : String} :
    (db.find? name).isSome ↔ ∃ t ∈ db.tables, Text.lower t.name = Text.lower name := by
  simp [find?, List.find?_isSome, sameName_iff]

theorem find?_eq_some_iff {db : Database} (hkeys : db.keys.Nodup) {name : String} {t : Table} :
    db.find? name = some t ↔ t ∈ db.tables ∧ Text.lower t.name = Text.lower name := by
  unfold find?
  constructor
  · intro h
    have hsame := List.find?_some h
    exact ⟨List.mem_of_find?_eq_some h, sameName_iff.1 hsame⟩
  · rintro ⟨ht, hname⟩
    obtain ⟨u, hu⟩ := Option.isSome_iff_exists.1 (find?_isSome_iff.2 ⟨t, ht, hname⟩)
    have hu_mem : u ∈ db.tables := List.mem_of_find?_eq_some hu
    have hu_same := List.find?_some hu
    have hu_name : Text.lower u.name = Text.lower name := sameName_iff.1 hu_same
    -- two tables with one key are one table
    have : u = t := List.inj_on_of_nodup_map hkeys hu_mem ht (hu_name.trans hname.symm)
    rw [← this]
    exact hu

theorem get_eq_ok_iff {db : Database} (hkeys : db.keys.Nodup) {name : String} {t : Table} :
    db.get name = .ok t ↔ t ∈ db.tables ∧ Text.lower t.name = Text.lower name := by
  rw [← find?_eq_some_iff hkeys]
  unfold get
  split <;> simp_all

theorem get_eq_error_iff {db : Database} {name : String} {e : Error} :
    db.get name = .error e ↔
      e = .tableNotFound name ∧ ∀ t ∈ db.tables, Text.lower t.name ≠ Text.lower name := by
  have hnone : db.find? name = none ↔ ∀ t ∈ db.tables, Text.lower t.name ≠ Text.lower name := by
    rw [← Option.not_isSome_iff_eq_none, find?_isSome_iff]
    simp
  rw [← hnone]
  unfold get
  cases db.find? name <;> simp [eq_comm]

theorem hasTable_iff {db : Database} {name : String} :
    db.hasTable name = true ↔ ∃ t ∈ db.tables, Text.lower t.name = Text.lower name :=
  find?_isSome_iff

/-! ## Registering -/

theorem register_isOk_iff {db : Database} {s : Schema} :
    (db.register s).isOk ↔ ∀ t ∈ db.tables, Text.lower t.name ≠ Text.lower s.name := by
  have hfree : db.hasTable s.name = false ↔
      ∀ t ∈ db.tables, Text.lower t.name ≠ Text.lower s.name := by
    rw [← Bool.not_eq_true, hasTable_iff]
    simp
  rw [← hfree]
  unfold register
  split <;> simp_all [Except.isOk, Except.toBool]

theorem keys_register {db db' : Database} {s : Schema} (h : db.register s = .ok db') :
    db'.keys = db.keys ++ [Text.lower s.name] := by
  simp [keys, register_tables h, Table.empty, Table.name]

theorem schemas_register {db db' : Database} {s : Schema} (h : db.register s = .ok db') :
    db'.schemas = db.schemas ++ [s] := by
  simp [schemas, register_tables h, Table.empty]

theorem register_keys_nodup {db db' : Database} {s : Schema} (hkeys : db.keys.Nodup)
    (h : db.register s = .ok db') : db'.keys.Nodup := by
  have hfree : Text.lower s.name ∉ db.keys := by
    have := register_isOk_iff.1 (by rw [h]; rfl)
    simpa [keys] using this
  rw [keys_register h, List.nodup_append]
  refine ⟨hkeys, by simp, ?_⟩
  intro k hk k' hk' heq
  rw [List.mem_singleton] at hk'
  rw [heq, hk'] at hk
  exact hfree hk

/-! ## Statements keep every table in its place -/

theorem schemas_replace {db : Database} {name : String} {t₀ t : Table} (h : db.get name = .ok t₀)
    (hs : t.schema = t₀.schema) : (db.replace name t).schemas = db.schemas := by
  have frame := (replace_frame h hs).imp fun u u' hu => show u.schema = u'.schema by
    rcases hu with rfl | ⟨-, hu⟩
    · rfl
    · exact hu.symm
  have : List.Forall₂ (· = ·) db.schemas (db.replace name t).schemas :=
    List.forall₂_map_left_iff.2 (List.forall₂_map_right_iff.2 frame)
  rw [List.forall₂_eq_eq_eq] at this
  exact this.symm

theorem schemas_execute (db : Database) (stmt : Statement) :
    (db.execute stmt).1.schemas = db.schemas ∨
      ∃ name columns, stmt = .createTable name columns ∧ (db.execute stmt).2.isOk ∧
        (db.execute stmt).1.schemas = db.schemas ++ [⟨name, columns⟩] := by
  cases stmt with
  | createTable name columns =>
    simp only [execute]
    split
    · rename_i db' h
      exact .inr ⟨name, columns, rfl, rfl, schemas_register h⟩
    · exact .inl rfl
  | insert name values =>
    simp only [execute]
    split
    · rename_i t' hins
      obtain ⟨t, hget, hrow⟩ := except_bind_eq_ok.1 hins
      exact .inl (schemas_replace hget (Table.insertRow_schema hrow))
    · exact .inl rfl
  | select proj name cond => exact .inl rfl
  | update name assignments cond =>
    simp only [execute]
    split
    · exact .inl rfl
    · rename_i t hget
      exact .inl (schemas_replace hget (Table.update_schema t assignments cond))

theorem schemas_runSql (db : Database) (sql : String) :
    (db.runSql sql).1.schemas = db.schemas ∨
      ∃ name columns, parse sql = .ok (.createTable name columns) ∧ (db.runSql sql).2.isOk ∧
        (db.runSql sql).1.schemas = db.schemas ++ [⟨name, columns⟩] := by
  unfold runSql
  split
  · rename_i stmt hparse
    rcases schemas_execute db stmt with same | ⟨name, columns, rfl, hok, hadd⟩
    · exact .inl same
    · exact .inr ⟨name, columns, hparse, hok, hadd⟩
  · exact .inl rfl

theorem runSql_keys_nodup {db : Database} (hkeys : db.keys.Nodup) (sql : String) :
    (db.runSql sql).1.keys.Nodup := by
  rcases schemas_runSql db sql with same | ⟨name, columns, hparse, -, -⟩
  · rwa [keys_eq_of_schemas same]
  · -- a CREATE TABLE registers its schema, or changes nothing
    simp only [runSql, hparse, execute]
    split
    · rename_i db' h
      exact register_keys_nodup hkeys h
    · exact hkeys

theorem ofSnapshot_keys_nodup {s : Snapshot} {db : Database} (h : ofSnapshot s = .ok db) :
    db.keys.Nodup := by
  -- the fold registers one entry at a time, starting from the empty database
  have fold : ∀ (es : List TableEntry) (db₀ : Database), db₀.keys.Nodup →
      es.foldlM (fun db e => db.register e.schema) db₀ = .ok db → db.keys.Nodup := by
    intro es
    induction es with
    | nil =>
      intro db₀ h₀ h
      simp only [List.foldlM_nil, pure, Except.pure, Except.ok.injEq] at h
      exact h ▸ h₀
    | cons e es ih =>
      intro db₀ h₀ h
      rw [List.foldlM_cons] at h
      obtain ⟨db₁, h₁, h⟩ := except_bind_eq_ok.1 h
      exact ih db₁ (register_keys_nodup h₀ h₁) h
  exact fold s.tables empty List.nodup_nil h

theorem Reachable.keys_nodup {db : Database} (h : Reachable db) : db.keys.Nodup := by
  induction h with
  | empty => exact List.nodup_nil
  | restore h => exact ofSnapshot_keys_nodup h
  | run sql _ ih => exact runSql_keys_nodup ih sql

end Database

/-! ## Only a lookup reports a missing table -/

/-- An error that does not report a missing table. -/
def Error.NotMissingTable (e : Error) : Prop := ∀ name, e ≠ .tableNotFound name

theorem Value.coerce_failsOnly (c : Column) (x : String) :
    FailsOnly Error.NotMissingTable (Value.coerce c x) := by
  intro e h name
  unfold Value.coerce at h
  split at h
  · split at h
    · cases h
    · cases h
      nofun
  · split at h
    · cases h
    · cases h
      nofun

theorem Value.compareLiteral_failsOnly (v : Value) (column literal : String) :
    FailsOnly Error.NotMissingTable (v.compareLiteral column literal) := by
  intro e h name
  unfold Value.compareLiteral at h
  split at h
  · split at h
    · cases h
    · cases h
      nofun
  · cases h

namespace Table

theorem column_failsOnly (t : Table) (name : String) :
    FailsOnly Error.NotMissingTable (t.column name) := by
  intro e h n
  unfold column at h
  split at h
  · cases h
  · cases h
    nofun

theorem insertRow_failsOnly (t : Table) (values : List String) :
    FailsOnly Error.NotMissingTable (t.insertRow values) := by
  unfold insertRow
  split
  · intro e h n
    cases h
    nofun
  · exact failsOnly_bind (failsOnly_mapM (fun _ => Value.coerce_failsOnly _ _) _)
      fun row _ => failsOnly_ok _

theorem filterOf_failsOnly (t : Table) (cond : Option Comparison) :
    FailsOnly Error.NotMissingTable (t.filterOf cond) := by
  cases cond with
  | none => exact failsOnly_ok _
  | some c => exact failsOnly_bind (column_failsOnly t c.column) fun _ _ => failsOnly_ok _

theorem filterOf_ok_failsOnly {t : Table} {cond : Option Comparison} {f : RowFilter}
    (h : t.filterOf cond = .ok f) (r : Row) : FailsOnly Error.NotMissingTable (f r) := by
  cases cond with
  | none =>
    simp only [filterOf, Except.ok.injEq] at h
    subst h
    exact failsOnly_ok _
  | some c =>
    simp only [filterOf, filterFor] at h
    obtain ⟨⟨i, col⟩, -, hf⟩ := except_bind_eq_ok.1 h
    simp only [pure, Except.pure, Except.ok.injEq] at hf
    subst hf
    unfold comparisonFilter
    split
    · exact failsOnly_map _ (Value.compareLiteral_failsOnly _ _ _)
    · exact failsOnly_ok _

theorem select_failsOnly (t : Table) (cond : Option Comparison) :
    FailsOnly Error.NotMissingTable (t.select cond) :=
  failsOnly_bind (filterOf_failsOnly t cond) fun _ hf =>
    failsOnly_filterM (filterOf_ok_failsOnly hf) _

theorem assignValues_failsOnly (targets : List (Nat × Column × String)) (r : Row) :
    FailsOnly Error.NotMissingTable (assignValues targets r) :=
  failsOnly_foldlM (fun _ _ => failsOnly_map _ (Value.coerce_failsOnly _ _)) targets r

end Table

namespace Store

theorem updateRows_failsOnly {P : Error → Prop} {f : RowFilter} {u : RowUpdate}
    (hf : ∀ r, FailsOnly P (f r)) (hu : ∀ r, FailsOnly P (u r)) :
    ∀ rows : List Row, FailsOnly P (updateRows f u rows).2
  | [] => failsOnly_ok _
  | r :: rs => by
    intro e h
    unfold updateRows at h
    split at h
    · rename_i e' hr
      cases h
      exact hf r e hr
    · exact updateRows_failsOnly hf hu rs e h
    · split at h
      · rename_i e' hr
        cases h
        exact hu r e hr
      · exact failsOnly_map _ (updateRows_failsOnly hf hu rs) e h

end Store

theorem Table.update_failsOnly (t : Table) (assignments : List Assignment)
    (cond : Option Comparison) : FailsOnly Error.NotMissingTable (t.update assignments cond).2 := by
  unfold Table.update
  dsimp only
  split
  · rename_i e htargets
    intro e' h
    cases h
    exact failsOnly_mapM (fun (a : Assignment) => failsOnly_map _ (Table.column_failsOnly t a.column))
      _ e htargets
  · split
    · rename_i e hf
      intro e' h
      cases h
      exact Table.filterOf_failsOnly t cond e hf
    · rename_i targets _ _ f hf
      exact Store.updateRows_failsOnly (Table.filterOf_ok_failsOnly hf)
        (Table.assignValues_failsOnly targets) t.store.rows

namespace Database

theorem select_failsOnly {db : Database} {name : String} {t : Table} (h : db.get name = .ok t)
    (proj : Projection) (cond : Option Comparison) :
    FailsOnly Error.NotMissingTable (db.select proj name cond) := by
  unfold select
  rw [h]
  refine failsOnly_bind (failsOnly_ok t) fun t _ => ?_
  refine failsOnly_bind (Table.select_failsOnly t cond) fun rows _ => ?_
  cases proj with
  | all => exact failsOnly_ok _
  | columns names =>
    exact failsOnly_bind (failsOnly_mapM (fun _ => Table.column_failsOnly t _) names)
      fun _ _ => failsOnly_ok _

theorem get_eq_ok_key {db : Database} {name : String} {t : Table} (h : db.get name = .ok t) :
    t ∈ db.tables ∧ Text.lower t.name = Text.lower name := by
  unfold get find? at h
  split at h
  · rename_i found hf
    cases h
    have hsame := List.find?_some hf
    exact ⟨List.mem_of_find?_eq_some hf, sameName_iff.1 hsame⟩
  · cases h

theorem tableNotFound_iff_of_get {β : Type} {db : Database} {name : String} {x : Except Error β}
    (hmiss : ∀ e, db.get name = .error e → x = .error e)
    (hfound : ∀ t, db.get name = .ok t → FailsOnly Error.NotMissingTable x) :
    x = .error (.tableNotFound name) ↔ ∀ t ∈ db.tables, Text.lower t.name ≠ Text.lower name := by
  cases hget : db.get name with
  | error e =>
    obtain ⟨rfl, hfree⟩ := get_eq_error_iff.1 hget
    rw [hmiss _ hget]
    exact iff_of_true rfl hfree
  | ok t =>
    obtain ⟨ht, hkey⟩ := get_eq_ok_key hget
    refine iff_of_false (fun hx => hfound t hget _ hx name rfl) fun hfree => hfree t ht hkey

theorem insert_tableNotFound_iff (db : Database) (name : String) (values : List String) :
    (db.execute (.insert name values)).2 = .error (.tableNotFound name) ↔
      ∀ t ∈ db.tables, Text.lower t.name ≠ Text.lower name := by
  apply tableNotFound_iff_of_get
  · intro e hget
    simp [execute, hget, bind, Except.bind]
  · intro t hget e he
    simp only [execute, hget] at he
    split at he
    · cases he
    · rename_i e' hins
      cases he
      exact Table.insertRow_failsOnly t values e hins

theorem select_tableNotFound_iff (db : Database) (proj : Projection) (name : String)
    (cond : Option Comparison) :
    (db.execute (.select proj name cond)).2 = .error (.tableNotFound name) ↔
      ∀ t ∈ db.tables, Text.lower t.name ≠ Text.lower name := by
  apply tableNotFound_iff_of_get
  · intro e hget
    simp [execute, select, hget, bind, Except.bind]
  · intro t hget
    exact select_failsOnly hget proj cond

theorem update_tableNotFound_iff (db : Database) (name : String) (assignments : List Assignment)
    (cond : Option Comparison) :
    (db.execute (.update name assignments cond)).2 = .error (.tableNotFound name) ↔
      ∀ t ∈ db.tables, Text.lower t.name ≠ Text.lower name := by
  apply tableNotFound_iff_of_get
  · intro e hget
    simp [execute, hget]
  · intro t hget
    simp only [execute, hget]
    exact failsOnly_map _ (Table.update_failsOnly t assignments cond)

theorem createTable_isOk_iff (db : Database) (name : String) (columns : List Column) :
    (db.execute (.createTable name columns)).2.isOk ↔
      ∀ t ∈ db.tables, Text.lower t.name ≠ Text.lower name := by
  have hfree := @register_isOk_iff db ⟨name, columns⟩
  rw [← hfree]
  simp only [execute]
  split <;> rename_i h <;> simp [h, Except.isOk, Except.toBool]

theorem createTable_tables {db : Database} {name : String} {columns : List Column}
    (h : (db.execute (.createTable name columns)).2.isOk) :
    (db.execute (.createTable name columns)).1.tables = db.tables ++ [Table.empty ⟨name, columns⟩] := by
  simp only [execute] at h ⊢
  split at h
  · rename_i db' hreg
    exact register_tables hreg
  · cases h

/-- What the registry guarantees of a database: every table is stored under its key and no two
share one; a statement keeps every table in its place and only a CREATE TABLE that succeeded
adds one, at the end; CREATE TABLE succeeds exactly when the new name's key is free; and a name
finds a table, for a lookup and for INSERT, SELECT and UPDATE alike, exactly when some table has
its key, the table found being that one. -/
structure Registry (db : Database) : Prop where
  keys_nodup : db.keys.Nodup
  in_creation_order : ∀ sql, (db.runSql sql).1.schemas = db.schemas ∨
    ∃ name columns, parse sql = .ok (.createTable name columns) ∧ (db.runSql sql).2.isOk ∧
      (db.runSql sql).1.schemas = db.schemas ++ [⟨name, columns⟩]
  create_isOk_iff : ∀ name columns, (db.execute (.createTable name columns)).2.isOk ↔
    ∀ t ∈ db.tables, Text.lower t.name ≠ Text.lower name
  create_appends : ∀ name columns, (db.execute (.createTable name columns)).2.isOk →
    (db.execute (.createTable name columns)).1.tables = db.tables ++ [Table.empty ⟨name, columns⟩]
  hasTable_iff : ∀ name, db.hasTable name = true ↔
    ∃ t ∈ db.tables, Text.lower t.name = Text.lower name
  get_iff : ∀ name t, db.get name = .ok t ↔ t ∈ db.tables ∧ Text.lower t.name = Text.lower name
  insert_missing_iff : ∀ name values,
    (db.execute (.insert name values)).2 = .error (.tableNotFound name) ↔
      ∀ t ∈ db.tables, Text.lower t.name ≠ Text.lower name
  select_missing_iff : ∀ proj name cond,
    (db.execute (.select proj name cond)).2 = .error (.tableNotFound name) ↔
      ∀ t ∈ db.tables, Text.lower t.name ≠ Text.lower name
  update_missing_iff : ∀ name assignments cond,
    (db.execute (.update name assignments cond)).2 = .error (.tableNotFound name) ↔
      ∀ t ∈ db.tables, Text.lower t.name ≠ Text.lower name

end Database

open Database in
/-- Every reachable database keeps its registry: tables keyed by the full lowercase of their
names, pairwise distinct, in creation order, and found by the key of any name given. -/
theorem reachable_registry_keyed_by_lowercase {db : Database} (h : db.Reachable) : db.Registry where
  keys_nodup := h.keys_nodup
  in_creation_order := schemas_runSql db
  create_isOk_iff := createTable_isOk_iff db
  create_appends _ _ := createTable_tables
  hasTable_iff _ := hasTable_iff
  get_iff _ _ := get_eq_ok_iff h.keys_nodup
  insert_missing_iff := insert_tableNotFound_iff db
  select_missing_iff := select_tableNotFound_iff db
  update_missing_iff := update_tableNotFound_iff db

/-- A table created as `Users` is the table of every letter case of its name, and a second
`USERS` is refused. -/
theorem users_registry :
    let db := (Database.empty.runSql "CREATE TABLE Users (id INT);").1
    db.Reachable ∧ db.Registry ∧ db.hasTable "uSERS" = true ∧
      (db.execute (.createTable "USERS" [⟨"id", .int⟩])).2.isOk = false := by
  intro db
  have reach : db.Reachable := .run _ .empty
  exact ⟨reach, reachable_registry_keyed_by_lowercase reach, by decide +kernel, by decide +kernel⟩

end TinySql
