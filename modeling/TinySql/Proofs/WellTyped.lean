import TinySql.Database
import TinySql.Proofs.Except

/-!
Reachable databases and the shape of their rows. A database is reachable when it is the empty
one, or one rebuilt from a snapshot, followed by any number of SQL texts, each of which may
fail. Every row of every table of such a database has one value per column, of the column's
type: an integer under INT, and under VARCHAR(n) a text of at most `n` characters.

INSERT gets this from converting each value against its column. UPDATE gets it from
converting each SET value against the column at the position it writes; `Row.set` keeps the
length of a row, so the invariant carries the length along with the types.
-/

namespace TinySql

open Sql

theorem exists_of_forall₂_mem_right {α β : Type} {R : α → β → Prop} :
    ∀ {as : List α} {bs : List β} {b : β}, List.Forall₂ R as bs → b ∈ bs → ∃ a ∈ as, R a b
  | _, _, _, .nil, hb => by simp at hb
  | a :: _, _ :: _, _, .cons hab tail, hb => by
    rcases List.mem_cons.1 hb with rfl | hb
    · exact ⟨a, by simp, hab⟩
    · obtain ⟨a', ha', h⟩ := exists_of_forall₂_mem_right tail hb
      exact ⟨a', by simp [ha'], h⟩

/-- Whether a stored value has the type a column declares. -/
def DataType.admits : DataType → Value → Bool
  | .int, .int _ => true
  | .varchar n, .text s => decide (s.length ≤ n.toNat)
  | _, _ => false

theorem DataType.admits_int {v : Value} : DataType.int.admits v = true ↔ ∃ n, v = .int n := by
  cases v <;> simp [admits]

theorem DataType.admits_varchar {m : UInt64} {v : Value} :
    (DataType.varchar m).admits v = true ↔ ∃ s, v = .text s ∧ s.length ≤ m.toNat := by
  cases v <;> simp [admits]

theorem admits_of_coerce {c : Column} {x : String} {v : Value} (h : Value.coerce c x = .ok v) :
    c.type.admits v = true := by
  unfold Value.coerce at h
  split at h
  · rename_i hc
    split at h
    · cases h
      simp [hc, DataType.admits]
    · cases h
  · rename_i m hc
    split at h
    · rename_i hlen
      cases h
      simpa [hc, DataType.admits] using hlen
    · cases h

theorem Schema.findColumn_getElem? {name : String} :
    ∀ {cs : List Column} {start i : Nat} {c : Column}, Schema.findColumn name start cs = some (i, c) →
      start ≤ i ∧ cs[i - start]? = some c
  | [], _, _, _, h => by simp [Schema.findColumn] at h
  | d :: cs, start, i, c, h => by
    unfold Schema.findColumn at h
    split at h
    · simp only [Option.some.injEq, Prod.mk.injEq] at h
      obtain ⟨rfl, rfl⟩ := h
      simp
    · obtain ⟨hle, hc⟩ := findColumn_getElem? h
      have hi : i - start = (i - (start + 1)) + 1 := by omega
      exact ⟨by omega, by rw [hi, List.getElem?_cons_succ]; exact hc⟩

/-- A row fits a list of columns: one value per column, each of its column's type. -/
def Row.Fits (cols : List Column) (r : Row) : Prop :=
  List.Forall₂ (fun c v => c.type.admits v = true) cols r.values

theorem forall₂_set {α β : Type} {R : α → β → Prop} :
    ∀ {as : List α} {bs : List β}, List.Forall₂ R as bs →
      ∀ {i : Nat} {a : α} {b : β}, as[i]? = some a → R a b → List.Forall₂ R as (bs.set i b)
  | _, _, .nil, _, _, _, ha, _ => by simp at ha
  | _ :: _, _ :: _, .cons hab tail, 0, _, _, ha, hb => by
    simp only [List.getElem?_cons_zero, Option.some.injEq] at ha
    subst ha
    exact .cons hb tail
  | _ :: _, _ :: _, .cons hab tail, i + 1, _, _, ha, hb => by
    simp only [List.getElem?_cons_succ] at ha
    exact .cons hab (forall₂_set tail ha hb)

theorem exists_of_forall₂_getElem? {α β : Type} {R : α → β → Prop} :
    ∀ {as : List α} {bs : List β}, List.Forall₂ R as bs →
      ∀ {i : Nat} {a : α}, as[i]? = some a → ∃ b, bs[i]? = some b ∧ R a b
  | _, _, .nil, _, _, ha => by simp at ha
  | _ :: _, b :: _, .cons hab _, 0, _, ha => by
    simp only [List.getElem?_cons_zero, Option.some.injEq] at ha
    subst ha
    exact ⟨b, rfl, hab⟩
  | _ :: _, _ :: _, .cons _ tail, i + 1, _, ha => by
    simp only [List.getElem?_cons_succ] at ha ⊢
    exact exists_of_forall₂_getElem? tail ha

theorem Row.Fits.set {cols : List Column} {r : Row} (hr : r.Fits cols) {i : Nat} {c : Column}
    (hc : cols[i]? = some c) {v : Value} (hv : c.type.admits v = true) : (r.set i v).Fits cols :=
  forall₂_set hr hc hv

namespace Table

/-- Every row of the table fits its schema. -/
def WellTyped (t : Table) : Prop := ∀ r ∈ t.store.rows, r.Fits t.schema.columns

theorem empty_wellTyped (s : Schema) : (Table.empty s).WellTyped := by
  intro r hr
  simp [Table.empty, Store.empty] at hr

theorem column_getElem? {t : Table} {name : String} {i : Nat} {c : Column}
    (h : t.column name = .ok (i, c)) : t.schema.columns[i]? = some c := by
  unfold Table.column at h
  split at h
  · rename_i found hl
    cases h
    simpa using Schema.findColumn_getElem? hl
  · cases h

theorem forall₂_of_zip {α β γ : Type} {R : α × β → γ → Prop} :
    ∀ {as : List α} {bs : List β} {cs : List γ}, bs.length = as.length →
      List.Forall₂ R (as.zip bs) cs → List.Forall₂ (fun a c => ∃ b, R (a, b) c) as cs
  | [], _, _, _, h => by
    rw [List.zip_nil_left, List.forall₂_nil_left_iff] at h
    subst h
    exact .nil
  | _ :: _, [], _, hl, _ => by simp at hl
  | a :: as, b :: bs, _, hl, h => by
    rw [List.zip_cons_cons] at h
    cases h with
    | cons hr tail => exact .cons ⟨b, hr⟩ (forall₂_of_zip (by simpa using hl) tail)

theorem insertRow_schema {t t' : Table} {values : List String} (h : t.insertRow values = .ok t') :
    t'.schema = t.schema := by
  unfold insertRow at h
  split at h
  · cases h
  · obtain ⟨row, -, h⟩ := except_bind_eq_ok.1 h
    simp only [pure, Except.pure, Except.ok.injEq] at h
    subst h
    rfl

theorem insertRow_wellTyped {t t' : Table} {values : List String} (ht : t.WellTyped)
    (h : t.insertRow values = .ok t') : t'.WellTyped := by
  unfold insertRow at h
  split at h
  · cases h
  · rename_i hlen
    obtain ⟨row, hrow, h⟩ := except_bind_eq_ok.1 h
    simp only [pure, Except.pure, Except.ok.injEq] at h
    subst h
    have fits : Row.Fits t.schema.columns ⟨row⟩ :=
      (forall₂_of_zip (by simpa using hlen) (forall₂_of_mapM hrow)).imp
        fun _ _ ⟨_, hv⟩ => admits_of_coerce hv
    intro r hr
    simp only [Store.insert, List.mem_append, List.mem_singleton] at hr
    rcases hr with old | rfl
    · exact ht r old
    · exact fits

theorem assignValues_cons (i : Nat) (c : Column) (x : String) (targets : List (Nat × Column × String))
    (r : Row) :
    assignValues ((i, c, x) :: targets) r = (Value.coerce c x).map (r.set i) >>= assignValues targets :=
  rfl

theorem fits_assignValues {cols : List Column} :
    ∀ {targets : List (Nat × Column × String)}, (∀ p ∈ targets, cols[p.1]? = some p.2.1) →
      ∀ {r r' : Row}, r.Fits cols → assignValues targets r = .ok r' → r'.Fits cols
  | [], _, r, r', hr, h => by
    simp only [assignValues, List.foldlM_nil, pure, Except.pure, Except.ok.injEq] at h
    exact h ▸ hr
  | (i, c, x) :: targets, hts, r, r', hr, h => by
    rw [assignValues_cons] at h
    obtain ⟨r₁, h₁, h⟩ := except_bind_eq_ok.1 h
    cases hv : Value.coerce c x with
    | error e => simp [hv, Except.map] at h₁
    | ok v =>
      simp only [hv, Except.map, Except.ok.injEq] at h₁
      subst h₁
      have hc : cols[i]? = some c := hts (i, c, x) (by simp)
      exact fits_assignValues (fun p hp => hts p (by simp [hp])) (hr.set hc (admits_of_coerce hv)) h

end Table

namespace Store

theorem mem_updateRows {f : RowFilter} {u : RowUpdate} {rows : List Row} {r' : Row}
    (h : r' ∈ (updateRows f u rows).1) : r' ∈ rows ∨ ∃ r ∈ rows, u r = .ok r' := by
  induction rows with
  | nil => simp [updateRows] at h
  | cons r rs ih =>
    unfold updateRows at h
    split at h
    · exact .inl h
    · simp only [List.mem_cons] at h
      rcases h with rfl | h
      · exact .inl (by simp)
      · rcases ih h with old | ⟨r₀, hr₀, hu⟩
        · exact .inl (by simp [old])
        · exact .inr ⟨r₀, by simp [hr₀], hu⟩
    · split at h
      · exact .inl h
      · rename_i r₁ hr₁
        simp only [List.mem_cons] at h
        rcases h with rfl | h
        · exact .inr ⟨r, by simp, hr₁⟩
        · rcases ih h with old | ⟨r₀, hr₀, hu⟩
          · exact .inl (by simp [old])
          · exact .inr ⟨r₀, by simp [hr₀], hu⟩

end Store

theorem Table.update_schema (t : Table) (assignments : List Assignment)
    (cond : Option Comparison) : (t.update assignments cond).1.schema = t.schema := by
  unfold Table.update
  dsimp only
  split
  · rfl
  · split
    · rfl
    · rfl

theorem Table.update_wellTyped {t : Table} (ht : t.WellTyped) (assignments : List Assignment)
    (cond : Option Comparison) : (t.update assignments cond).1.WellTyped := by
  unfold Table.update
  dsimp only
  split
  · exact ht
  · rename_i targets htargets
    split
    · exact ht
    · rename_i f _
      -- each target is a position of the schema paired with the column found there
      have hts : ∀ p ∈ targets, t.schema.columns[p.1]? = some p.2.1 := by
        intro p hp
        obtain ⟨a, _, ha⟩ := exists_of_forall₂_mem_right (forall₂_of_mapM htargets) hp
        cases hc : t.column a.column with
        | error e => simp [hc, Except.map] at ha
        | ok ic =>
          simp only [hc, Except.map, Except.ok.injEq] at ha
          subst ha
          exact Table.column_getElem? hc
      intro r hr
      rcases Store.mem_updateRows hr with old | ⟨r₀, hr₀, hu⟩
      · exact ht r old
      · exact Table.fits_assignValues hts (ht r₀ hr₀) hu

namespace Database

/-- Every table of the database is well typed. -/
def WellTyped (db : Database) : Prop := ∀ t ∈ db.tables, t.WellTyped

/-- The databases a program can hold: the empty one or one rebuilt from a snapshot, then any
number of SQL texts run on it, whether they succeed or fail. -/
inductive Reachable : Database → Prop
  | empty : Reachable Database.empty
  | restore {s : Snapshot} {db : Database} (h : ofSnapshot s = .ok db) : Reachable db
  | run {db : Database} (sql : String) (h : Reachable db) : Reachable (db.runSql sql).1

theorem mem_of_get {db : Database} {name : String} {t : Table} (h : db.get name = .ok t) :
    t ∈ db.tables := by
  unfold get find? at h
  split at h
  · rename_i found hf
    cases h
    exact List.mem_of_find?_eq_some hf
  · cases h

theorem register_tables {db db' : Database} {s : Schema} (h : db.register s = .ok db') :
    db'.tables = db.tables ++ [Table.empty s] := by
  unfold register at h
  split at h
  · cases h
  · cases h
    rfl

theorem mem_replaceFirst {name : String} {t u : Table} :
    ∀ {ts : List Table}, u ∈ replace.replaceFirst name t ts → u ∈ ts ∨ u = t
  | [], h => by simp [replace.replaceFirst] at h
  | v :: vs, h => by
    simp only [replace.replaceFirst] at h
    split at h
    · simp only [List.mem_cons] at h
      rcases h with rfl | h
      · exact .inr rfl
      · exact .inl (by simp [h])
    · simp only [List.mem_cons] at h
      rcases h with rfl | h
      · exact .inl (by simp)
      · rcases mem_replaceFirst h with old | rfl
        · exact .inl (by simp [old])
        · exact .inr rfl

theorem mem_replace {db : Database} {name : String} {t u : Table}
    (h : u ∈ (db.replace name t).tables) : u ∈ db.tables ∨ u = t :=
  mem_replaceFirst h

theorem register_wellTyped {db db' : Database} {s : Schema} (hdb : db.WellTyped)
    (h : db.register s = .ok db') : db'.WellTyped := by
  intro t ht
  rw [register_tables h, List.mem_append, List.mem_singleton] at ht
  rcases ht with old | rfl
  · exact hdb t old
  · exact Table.empty_wellTyped s

theorem replace_wellTyped {db : Database} {name : String} {t : Table} (hdb : db.WellTyped)
    (ht : t.WellTyped) : (db.replace name t).WellTyped := by
  intro u hu
  rcases mem_replace hu with old | rfl
  · exact hdb u old
  · exact ht

theorem ofSnapshot_wellTyped {s : Snapshot} {db : Database} (h : ofSnapshot s = .ok db) :
    db.WellTyped := by
  -- the fold registers one entry at a time, starting from the empty database
  have fold : ∀ (es : List TableEntry) (db₀ : Database), db₀.WellTyped →
      es.foldlM (fun db e => db.register e.schema) db₀ = .ok db → db.WellTyped := by
    intro es
    induction es with
    | nil =>
      intro db₀ h₀ h
      simp only [List.foldlM_nil, pure, Except.pure, Except.ok.injEq] at h
      exact h ▸ h₀
    | cons e es ih =>
      intro db₀ h₀ h
      rw [List.foldlM_cons] at h
      obtain ⟨db₁, h₁, h⟩ := except_bind_eq_ok.1 h
      exact ih db₁ (register_wellTyped h₀ h₁) h
  exact fold s.tables empty (by simp [WellTyped, empty]) h

theorem execute_wellTyped {db : Database} (hdb : db.WellTyped) (stmt : Statement) :
    (db.execute stmt).1.WellTyped := by
  cases stmt with
  | createTable name columns =>
    simp only [execute]
    split
    · rename_i db' h
      exact register_wellTyped hdb h
    · exact hdb
  | insert name values =>
    simp only [execute]
    split
    · rename_i t' h
      obtain ⟨t, hget, hins⟩ := except_bind_eq_ok.1 h
      exact replace_wellTyped hdb (Table.insertRow_wellTyped (hdb t (mem_of_get hget)) hins)
    · exact hdb
  | select proj name cond => exact hdb
  | update name assignments cond =>
    simp only [execute]
    split
    · exact hdb
    · rename_i t hget
      exact replace_wellTyped hdb
        (Table.update_wellTyped (hdb t (mem_of_get hget)) assignments cond)

theorem runSql_wellTyped {db : Database} (hdb : db.WellTyped) (sql : String) :
    (db.runSql sql).1.WellTyped := by
  unfold runSql
  split
  · exact execute_wellTyped hdb _
  · exact hdb

theorem Reachable.wellTyped {db : Database} (h : Reachable db) : db.WellTyped := by
  induction h with
  | empty =>
    intro t ht
    simp [Database.empty] at ht
  | restore h => exact ofSnapshot_wellTyped h
  | run sql _ ih => exact runSql_wellTyped ih sql

end Database

open Database in
/-- In every reachable database, every row of every table has exactly one value per column
of the table's schema, and the value at each position has that column's type: an integer
under INT, a text of at most `n` characters under VARCHAR(n). -/
theorem reachable_rows_match_schema {db : Database} (h : db.Reachable) {t : Table}
    (ht : t ∈ db.tables) {r : Row} (hr : r ∈ t.store.rows) :
    r.values.length = t.schema.columns.length ∧
      ∀ (i : Nat) (c : Column), t.schema.columns[i]? = some c →
        (c.type = .int → ∃ n, r.values[i]? = some (.int n)) ∧
        (∀ m, c.type = .varchar m → ∃ s, r.values[i]? = some (.text s) ∧ s.length ≤ m.toNat) := by
  have fits : r.Fits t.schema.columns := h.wellTyped t ht r hr
  refine ⟨fits.length_eq.symm, ?_⟩
  intro i c hc
  obtain ⟨v, hv, hadm⟩ := exists_of_forall₂_getElem? fits hc
  constructor
  · intro hint
    rw [hint, DataType.admits_int] at hadm
    obtain ⟨n, rfl⟩ := hadm
    exact ⟨n, hv⟩
  · intro m hvar
    rw [hvar, DataType.admits_varchar] at hadm
    obtain ⟨s, rfl, hlen⟩ := hadm
    exact ⟨s, hv, hlen⟩

/-- A table created and given one row: the row is an integer and a text of two characters,
as its schema requires. -/
theorem inserted_row_matches_schema :
    let db := ((Database.empty.runSql "CREATE TABLE t (a INT, b VARCHAR(3));").1.runSql
      "INSERT INTO t VALUES (7, 'xy');").1
    let t : Table := ⟨⟨"t", [⟨"a", .int⟩, ⟨"b", .varchar 3⟩]⟩, ⟨[⟨[.int 7, .text "xy"]⟩]⟩⟩
    let r : Row := ⟨[.int 7, .text "xy"]⟩
    db.Reachable ∧ t ∈ db.tables ∧ r ∈ t.store.rows ∧
      r.values.length = t.schema.columns.length ∧
      ∀ (i : Nat) (c : Column), t.schema.columns[i]? = some c →
        (c.type = .int → ∃ n, r.values[i]? = some (.int n)) ∧
        (∀ m, c.type = .varchar m → ∃ s, r.values[i]? = some (.text s) ∧ s.length ≤ m.toNat) := by
  intro db t r
  have reach : db.Reachable := .run _ (.run _ .empty)
  have ht : t ∈ db.tables := by decide +kernel
  have hr : r ∈ t.store.rows := by simp [t, r]
  exact ⟨reach, ht, hr, reachable_rows_match_schema reach ht hr⟩

end TinySql
