import TinySql.Proofs.Registry

/-!
Restoring a database from a snapshot. The entries are registered one after another, each as an
empty table, and the first entry whose key is already taken stops the restore. So a restore
succeeds exactly when the entries' names are distinct up to letter case, and otherwise names
the first entry that collides with an earlier one. A restored database holds the snapshot's
schemas in order with no rows; and since a reachable database keeps its keys distinct,
restoring its snapshot gives it back with every table emptied.
-/

namespace TinySql

open Database

/-- The key an entry's table is stored under once restored. -/
def TableEntry.key (e : TableEntry) : String := Text.lower e.schema.name

namespace Database

/-- The database that holds an empty table for each entry, in order. -/
def ofEntries (es : List TableEntry) : Database := ⟨es.map fun e => Table.empty e.schema⟩

theorem keys_ofEntries (es : List TableEntry) : (ofEntries es).keys = es.map TableEntry.key := by
  simp [keys, ofEntries, Table.empty, Table.name, TableEntry.key, Function.comp_def]

theorem register_ofEntries_of_mem {done : List TableEntry} {e : TableEntry}
    (h : e.key ∈ done.map TableEntry.key) :
    (ofEntries done).register e.schema = .error (.tableAlreadyExists e.schema.name) := by
  have taken : (ofEntries done).hasTable e.schema.name = true := by
    rw [hasTable_iff]
    rw [← keys_ofEntries, keys, List.mem_map] at h
    obtain ⟨t, ht, hkey⟩ := h
    exact ⟨t, ht, hkey⟩
  simp [register, taken]

theorem register_ofEntries_of_not_mem {done : List TableEntry} {e : TableEntry}
    (h : e.key ∉ done.map TableEntry.key) :
    (ofEntries done).register e.schema = .ok (ofEntries (done ++ [e])) := by
  have free : (ofEntries done).hasTable e.schema.name = false := by
    rw [← Bool.not_eq_true, hasTable_iff]
    rintro ⟨t, ht, hkey⟩
    exact h (by rw [← keys_ofEntries, keys, List.mem_map]; exact ⟨t, ht, hkey⟩)
  rw [register, free]
  simp [ofEntries]

theorem foldlM_register_eq_ok_iff :
    ∀ (rest done : List TableEntry), (done.map TableEntry.key).Nodup → ∀ db,
      rest.foldlM (fun db e => db.register e.schema) (ofEntries done) = .ok db ↔
        ((done ++ rest).map TableEntry.key).Nodup ∧ db = ofEntries (done ++ rest)
  | [], done, hdone, db => by
    simp only [List.foldlM_nil, pure, Except.pure, Except.ok.injEq, List.append_nil]
    exact ⟨fun h => ⟨hdone, h.symm⟩, fun h => h.2.symm⟩
  | e :: rest, done, hdone, db => by
    rw [List.foldlM_cons]
    by_cases taken : e.key ∈ done.map TableEntry.key
    · rw [register_ofEntries_of_mem taken]
      refine iff_of_false (by simp [bind, Except.bind]) fun ⟨hnodup, _⟩ => ?_
      -- the entry's key is already among the keys before it
      rw [List.map_append, List.map_cons, List.nodup_append] at hnodup
      exact hnodup.2.2 _ taken _ List.mem_cons_self rfl
    · rw [register_ofEntries_of_not_mem taken]
      have hnext : ((done ++ [e]).map TableEntry.key).Nodup := by
        rw [List.map_append, List.nodup_append]
        exact ⟨hdone, by simp, fun a ha b hb heq => taken (by simp_all)⟩
      show rest.foldlM (fun db e => db.register e.schema) (ofEntries (done ++ [e])) =
        Except.ok db ↔ _
      rw [foldlM_register_eq_ok_iff rest (done ++ [e]) hnext db, List.append_assoc,
        List.singleton_append]

theorem foldlM_register_eq_error_iff :
    ∀ (rest done : List TableEntry), (done.map TableEntry.key).Nodup → ∀ err,
      rest.foldlM (fun db e => db.register e.schema) (ofEntries done) = .error err ↔
        ∃ pre e post, rest = pre ++ e :: post ∧ ((done ++ pre).map TableEntry.key).Nodup ∧
          e.key ∈ (done ++ pre).map TableEntry.key ∧ err = .tableAlreadyExists e.schema.name
  | [], done, hdone, err => by
    simp only [List.foldlM_nil, pure, Except.pure, reduceCtorEq, false_iff]
    rintro ⟨pre, e, post, h, -⟩
    simp at h
  | e :: rest, done, hdone, err => by
    rw [List.foldlM_cons]
    by_cases taken : e.key ∈ done.map TableEntry.key
    · rw [register_ofEntries_of_mem taken]
      simp only [bind, Except.bind, Except.error.injEq]
      constructor
      · rintro rfl
        exact ⟨[], e, rest, rfl, by simpa using hdone, by simpa using taken, rfl⟩
      · rintro ⟨pre, e', post, hsplit, hnodup, -, rfl⟩
        cases pre with
        | nil =>
          obtain ⟨rfl, -⟩ := List.cons_eq_cons.1 hsplit
          rfl
        | cons p pre =>
          -- an entry after the first one cannot be the first collision
          obtain ⟨rfl, -⟩ := List.cons_eq_cons.1 hsplit
          rw [List.map_append, List.map_cons, List.nodup_append] at hnodup
          exact absurd rfl (hnodup.2.2 _ taken _ List.mem_cons_self)
    · rw [register_ofEntries_of_not_mem taken]
      have hnext : ((done ++ [e]).map TableEntry.key).Nodup := by
        rw [List.map_append, List.nodup_append]
        exact ⟨hdone, by simp, fun a ha b hb heq => taken (by simp_all)⟩
      show rest.foldlM (fun db e => db.register e.schema) (ofEntries (done ++ [e])) =
        Except.error err ↔ _
      rw [foldlM_register_eq_error_iff rest (done ++ [e]) hnext err]
      constructor
      · rintro ⟨pre, e', post, rfl, hnodup, hmem, rfl⟩
        exact ⟨e :: pre, e', post, rfl, by simpa using hnodup, by simpa using hmem, rfl⟩
      · rintro ⟨pre, e', post, hsplit, hnodup, hmem, rfl⟩
        cases pre with
        | nil =>
          obtain ⟨rfl, -⟩ := List.cons_eq_cons.1 hsplit
          exact absurd (by simpa using hmem) taken
        | cons p pre =>
          obtain ⟨rfl, rfl⟩ := List.cons_eq_cons.1 hsplit
          exact ⟨pre, e', post, rfl, by simpa using hnodup, by simpa using hmem, rfl⟩

theorem ofSnapshot_eq_ok_iff (s : Snapshot) (db : Database) :
    ofSnapshot s = .ok db ↔ (s.tables.map TableEntry.key).Nodup ∧ db = ofEntries s.tables := by
  have h := foldlM_register_eq_ok_iff s.tables [] List.nodup_nil db
  rw [List.nil_append] at h
  exact h

theorem ofSnapshot_eq_error_iff (s : Snapshot) (err : Error) :
    ofSnapshot s = .error err ↔
      ∃ pre e post, s.tables = pre ++ e :: post ∧ (pre.map TableEntry.key).Nodup ∧
        e.key ∈ pre.map TableEntry.key ∧ err = .tableAlreadyExists e.schema.name := by
  have h := foldlM_register_eq_error_iff s.tables [] List.nodup_nil err
  simp only [List.nil_append] at h
  exact h

theorem snapshot_ofEntries (es : List TableEntry) :
    (ofEntries es).snapshot = ⟨es.map fun e => { e with rowCount := 0 }⟩ := by
  simp [snapshot, ofEntries, Table.empty, Table.rowCount, Store.empty, Store.count]

theorem snapshot_keys (db : Database) : db.snapshot.tables.map TableEntry.key = db.keys := by
  simp [snapshot, keys, TableEntry.key, Table.name, Function.comp_def]

end Database

/-- Restoring a snapshot succeeds exactly when no two entries have names with the same full
lowercase; otherwise it fails naming the first entry whose name an earlier entry already has.
The snapshot of a restored database is the one restored from with every row count zero, and
restoring the snapshot of a reachable database gives that database back with every table
emptied: the same names as written, schemas and order. -/
theorem ofSnapshot_restores_schemas :
    (∀ s : Snapshot,
      ((ofSnapshot s).isOk ↔ (s.tables.map TableEntry.key).Nodup) ∧
      (∀ err, ofSnapshot s = .error err ↔
        ∃ pre e post, s.tables = pre ++ e :: post ∧ (pre.map TableEntry.key).Nodup ∧
          e.key ∈ pre.map TableEntry.key ∧ err = .tableAlreadyExists e.schema.name) ∧
      ∀ db, ofSnapshot s = .ok db →
        db.snapshot = ⟨s.tables.map fun e => { e with rowCount := 0 }⟩) ∧
    ∀ db : Database, db.Reachable →
      ofSnapshot db.snapshot = .ok ⟨db.tables.map fun t => { t with store := .empty }⟩ := by
  refine ⟨fun s => ⟨?_, ofSnapshot_eq_error_iff s, ?_⟩, ?_⟩
  · constructor
    · intro hok
      obtain ⟨db, hdb⟩ : ∃ db, ofSnapshot s = .ok db := by
        cases h : ofSnapshot s with
        | ok db => exact ⟨db, rfl⟩
        | error e => simp [h, Except.isOk, Except.toBool] at hok
      exact ((ofSnapshot_eq_ok_iff s db).1 hdb).1
    · intro hnodup
      rw [(ofSnapshot_eq_ok_iff s _).2 ⟨hnodup, rfl⟩]
      rfl
  · intro db hdb
    rw [((ofSnapshot_eq_ok_iff s db).1 hdb).2, snapshot_ofEntries]
  · intro db reach
    have hnodup : (db.snapshot.tables.map TableEntry.key).Nodup := by
      rw [snapshot_keys]
      exact reach.keys_nodup
    rw [(ofSnapshot_eq_ok_iff _ _).2 ⟨hnodup, rfl⟩]
    simp [ofEntries, snapshot, Table.empty]

/-- A table given a row and then restored from the database's snapshot comes back with its
schema and no rows. -/
theorem restore_empties_table :
    let db := ((Database.empty.runSql "CREATE TABLE t (a INT);").1.runSql
      "INSERT INTO t VALUES (1);").1
    db.Reachable ∧
      ofSnapshot db.snapshot = .ok ⟨db.tables.map fun t => { t with store := .empty }⟩ := by
  intro db
  have reach : db.Reachable := .run _ (.run _ .empty)
  exact ⟨reach, ofSnapshot_restores_schemas.2 db reach⟩

end TinySql
