import TinySql.Proofs.SelectOutcome
import TinySql.Proofs.Atomicity

/-!
What UPDATE does. Its checks run in three phases: the SET columns are found, in SET order; then
the WHERE clause is checked against the table (`Table.whereTest`); then the rows are visited. A
SET value is converted only when a row is to change, so a value that does not convert is an error
exactly when some row satisfies the WHERE clause, and then it is the first such value in SET order
whatever the row, since a conversion depends on the column and the text alone. Each satisfying
row is rewritten in place, a column named twice taking the last value written to it.
-/

namespace TinySql

open Sql

namespace Row

/-- The value last written at position `p`, if a write names it. -/
def lastWrite (writes : List (Nat × Value)) (p : Nat) : Option Value :=
  (writes.reverse.find? (·.1 == p)).map (·.2)

/-- The row in which each position that a write names holds the last value written there;
writes past the end of the row are ignored. -/
def assignLast (r : Row) (writes : List (Nat × Value)) : Row :=
  ⟨r.values.mapIdx fun p v => (lastWrite writes p).getD v⟩

theorem lastWrite_cons (i : Nat) (x : Value) (writes : List (Nat × Value)) (p : Nat) :
    lastWrite ((i, x) :: writes) p = (lastWrite writes p).or (if i = p then some x else none) := by
  cases hlast : (writes.reverse.find? (·.1 == p)) <;>
    by_cases hip : i = p <;> simp [lastWrite, List.find?_append, hlast, hip]

theorem assignLast_nil (r : Row) : r.assignLast [] = r := by
  simp only [assignLast, lastWrite]
  congr 1
  apply List.ext_getElem?
  intro p
  simp [List.getElem?_mapIdx]

theorem set_assignLast (r : Row) (i : Nat) (x : Value) (writes : List (Nat × Value)) :
    (r.set i x).assignLast writes = r.assignLast ((i, x) :: writes) := by
  simp only [assignLast, set, mk.injEq]
  apply List.ext_getElem?
  intro p
  simp only [List.getElem?_mapIdx, List.getElem?_set, lastWrite_cons]
  by_cases hip : i = p
  · subst hip
    by_cases hlen : i < r.values.length
    · cases lastWrite writes i <;> simp [hlen]
    · simp [hlen]
  · cases lastWrite writes p <;> simp [hip]

end Row

namespace Table

theorem assignValues_of_firstError {e : Error} :
    ∀ {targets : List (Nat × Column × String)},
      firstError (targets.map fun (_, c, text) => Value.coerce c text) = some e →
        ∀ r, assignValues targets r = .error e
  | [], h, _ => by cases h
  | (i, c, x) :: targets, h, r => by
    rw [assignValues_cons]
    cases hv : Value.coerce c x with
    | error e' =>
      simp only [List.map_cons, hv, firstError, Option.some.injEq] at h
      subst h
      rfl
    | ok v =>
      simp only [List.map_cons, hv, firstError] at h
      exact assignValues_of_firstError h (r.set i v)

theorem assignValues_of_firstError_none :
    ∀ {targets : List (Nat × Column × String)},
      firstError (targets.map fun (_, c, text) => Value.coerce c text) = none →
        ∀ r, assignValues targets r =
          .ok (r.assignLast (targets.filterMap fun (i, c, text) =>
            (Value.coerce c text).toOption.map (i, ·)))
  | [], _, r => by simp [assignValues, Row.assignLast_nil, pure, Except.pure]
  | (i, c, x) :: targets, h, r => by
    rw [assignValues_cons]
    cases hv : Value.coerce c x with
    | error e => simp [hv, firstError] at h
    | ok v =>
      simp only [List.map_cons, hv, firstError] at h
      simp only [Except.map, bind, Except.bind, assignValues_of_firstError_none h (r.set i v),
        Row.set_assignLast, List.filterMap_cons, hv, Except.toOption, Option.map_some]

end Table

namespace Store

variable {f : RowFilter} {u : RowUpdate} {keep : Row → Bool}

theorem updateRows_of_ok {g : Row → Row} :
    ∀ {rows : List Row}, (∀ r ∈ rows, f r = .ok (keep r)) →
      (∀ r ∈ rows, keep r = true → u r = .ok (g r)) →
        updateRows f u rows = (rows.map fun r => if keep r then g r else r, .ok (rows.countP keep))
  | [], _, _ => rfl
  | r :: rs, hf, hu => by
    have hrest := updateRows_of_ok (fun a ha => hf a (List.mem_cons_of_mem r ha))
      (fun a ha => hu a (List.mem_cons_of_mem r ha))
    unfold updateRows
    rw [hf r List.mem_cons_self]
    cases hk : keep r with
    | false => simp [hrest, hk]
    | true =>
      rw [hu r List.mem_cons_self hk]
      simp [hrest, hk, Except.map]

theorem updateRows_of_rejected {e : Error} :
    ∀ {rows : List Row}, (∀ r ∈ rows, f r = .ok (keep r)) →
      (∀ r ∈ rows, keep r = true → u r = .error e) → (∃ r ∈ rows, keep r = true) →
        updateRows f u rows = (rows, .error e)
  | [], _, _, hhit => by simp at hhit
  | r :: rs, hf, hu, hhit => by
    unfold updateRows
    rw [hf r List.mem_cons_self]
    cases hk : keep r with
    | true => simp [hu r List.mem_cons_self hk]
    | false =>
      -- the accepted row lies further on
      have hhit' : ∃ a ∈ rs, keep a = true := by
        obtain ⟨a, ha, hka⟩ := hhit
        rcases List.mem_cons.1 ha with rfl | ha
        · rw [hk] at hka
          cases hka
        · exact ⟨a, ha, hka⟩
      simp [updateRows_of_rejected (fun a ha => hf a (List.mem_cons_of_mem r ha))
        (fun a ha => hu a (List.mem_cons_of_mem r ha)) hhit']

theorem updateRows_cons_of_error {r : Row} {rs : List Row} {e : Error} (hf : f r = .error e) :
    updateRows f u (r :: rs) = (r :: rs, .error e) := by
  unfold updateRows
  rw [hf]

end Store

namespace Database

/-- What an UPDATE is to do. The table must exist, then every SET column, the first missing one in
SET order giving the error, then the WHERE clause must be evaluable (`Table.whereTest`). When
some row satisfies it, every SET value must convert to the type of the column it names, the first
that does not in SET order giving the error. Then each satisfying row is rewritten in place, each
SET column taking the last value written to it, and the number of those rows is reported. -/
def updateOutcome (db : Database) (name : String) (assignments : List Assignment)
    (cond : Option Comparison) : Database × Except Error QueryResult :=
  match db.find? name with
  | none => (db, .error (.tableNotFound name))
  | some t =>
    match assignments.find? fun a => (t.schema.lookup? a.column).isNone with
    | some a => (db, .error (.columnNotFound a.column t.name))
    | none =>
      match t.whereTest cond with
      | .error e => (db, .error e)
      | .ok keep =>
        -- each SET value converted against the column it names, in SET order
        let converted := assignments.filterMap fun a =>
          (t.schema.lookup? a.column).map fun (p, c) => (p, Value.coerce c a.value)
        let hits := t.store.rows.filter keep
        match hits, firstError (converted.map (·.2)) with
        | _ :: _, some e => (db, .error e)
        | _, _ =>
          let writes := converted.filterMap fun (p, v) => v.toOption.map (p, ·)
          let rows := t.store.rows.map fun r => if keep r then r.assignLast writes else r
          (db.replace name ⟨t.schema, ⟨rows⟩⟩,
            .ok (.ofAffected hits.length (Nat.repr hits.length ++ " row(s) updated")))

theorem targets_converted (t : Table) (assignments : List Assignment) :
    let targets := assignments.filterMap fun a =>
      (t.schema.lookup? a.column).map fun (i, c) => (i, c, a.value)
    let converted := assignments.filterMap fun a =>
      (t.schema.lookup? a.column).map fun (p, c) => (p, Value.coerce c a.value)
    targets.map (fun (_, c, text) => Value.coerce c text) = converted.map (·.2) ∧
      targets.filterMap (fun (i, c, text) => (Value.coerce c text).toOption.map (i, ·)) =
        converted.filterMap fun (p, v) => v.toOption.map (p, ·) := by
  constructor
  · simp [List.map_filterMap, Option.map_map, Function.comp_def]
  · simp only [List.filterMap_filterMap, Option.bind_map, Function.comp_def]

theorem execute_update {db : Database} (hdb : db.WellTyped) (name : String)
    (assignments : List Assignment) (cond : Option Comparison) :
    db.execute (.update name assignments cond) = db.updateOutcome name assignments cond := by
  unfold updateOutcome
  cases hfind : db.find? name with
  | none => simp [execute, get_of_find?_none hfind]
  | some t =>
    have hget := get_of_find? hfind
    have ht : t.WellTyped := hdb t (mem_of_get hget)
    have hkeep : db.replace name t = db := replace_get hget
    have htargets := Table.mapM_eq_of_lookup t (·.column) (fun a (i, c) => (i, c, a.value))
      (f := fun a => (t.column a.column).map fun (i, c) => (i, c, a.value))
      (fun a => by cases hl : t.schema.lookup? a.column <;> simp [Table.column_eq, Except.map, hl])
      assignments
    simp only [execute, hget, Table.update, htargets]
    cases hmiss : assignments.find? fun a => (t.schema.lookup? a.column).isNone with
    | some a => simp [hkeep, Except.map]
    | none =>
      obtain ⟨hconv, hwrites⟩ := targets_converted t assignments
      rcases Table.filterOf_cases ht cond with
        ⟨e, hf, hw⟩ | ⟨f, e, hf, hw, hne, herr⟩ | ⟨f, keep, hf, hw, hok⟩
      · simp [hf, hw, hkeep, Except.map]
      · -- the comparison fails on the first row, before any row changes
        obtain ⟨r, rs, hrows⟩ := List.exists_cons_of_ne_nil hne
        have hr : f r = .error e := herr r (by simp [hrows])
        have hsame : ({ t with store := ⟨r :: rs⟩ } : Table) = t := by
          rw [← hrows]
        simp [hf, hw, Store.update, hrows, Store.updateRows_cons_of_error hr, hsame, hkeep,
          Except.map]
      · -- every row is decided; the SET values fail on every row alike or on none
        simp only [hf, hw, Store.update]
        cases hfirst : firstError ((assignments.filterMap fun a =>
            (t.schema.lookup? a.column).map fun (p, c) => (p, Value.coerce c a.value)).map (·.2)) with
        | some e =>
          have hu := Table.assignValues_of_firstError ((congrArg firstError hconv).trans hfirst)
          by_cases hhit : ∃ r ∈ t.store.rows, keep r = true
          · obtain ⟨h₀, hs, hhits⟩ := List.exists_cons_of_ne_nil
              (List.filter_eq_nil_iff.not.2 (by simpa using hhit))
            rw [Store.updateRows_of_rejected hok (fun r _ _ => hu r) hhit, hhits]
            simp [hkeep, Except.map]
          · -- no row satisfies the WHERE clause, so no value is converted and no row changes
            have hnone : t.store.rows.filter keep = [] := List.filter_eq_nil_iff.2 (by simpa using hhit)
            have hsame : ∀ g : Row → Row,
                t.store.rows.map (fun r => if keep r then g r else r) = t.store.rows := by
              intro g
              conv_rhs => rw [← List.map_id t.store.rows]
              refine List.map_congr_left fun r hr => ?_
              simp [Bool.eq_false_iff.2 fun hk => hhit ⟨r, hr, hk⟩]
            rw [Store.updateRows_of_ok (g := id) hok (fun r hr hk => absurd ⟨r, hr, hk⟩ hhit), hnone,
              List.countP_eq_length_filter, hnone]
            simp [hsame, Except.map]
        | none =>
          have hu := Table.assignValues_of_firstError_none ((congrArg firstError hconv).trans hfirst)
          rw [Store.updateRows_of_ok hok (fun r _ _ => hu r), hwrites, List.countP_eq_length_filter]
          cases t.store.rows.filter keep <;> simp [Except.map]

end Database

open Database in
/-- UPDATE on a reachable database fails, leaving it as it was, in this order: for a missing table;
for the first SET column in SET order that the table lacks; for a WHERE column the table lacks;
for an INT column compared with a literal that is not an integer, when the table has a row; and,
when some row satisfies the WHERE clause, for the first SET value in SET order that does not
convert, the error naming the column as the schema spells it. Otherwise it rewrites each row that
satisfies the clause (every row without WHERE) in place, each SET column taking the last value
written to it, keeps every other row and value, and reports how many rows it rewrote. -/
theorem runSql_update_outcome {db : Database} (h : db.Reachable) {sql name : String}
    {assignments : List Assignment} {cond : Option Comparison}
    (hsql : parse sql = .ok (.update name assignments cond)) :
    db.runSql sql = db.updateOutcome name assignments cond ∧
      ∀ c v e, Value.coerce c v = .error e ↔
        (c.type = .int ∧ Text.parseInt64? v = none ∧ e = .invalidInteger c.name v) ∨
          ∃ m, c.type = .varchar m ∧ m.toNat < v.length ∧ e = .valueTooLong c.name m v := by
  refine ⟨?_, fun c v e => Value.coerce_eq_error_iff⟩
  rw [runSql, hsql]
  exact execute_update h.wellTyped name assignments cond

/-- Setting `b` and then `B` on the rows with `a = 5` leaves the second value in both, and the
row with `a = 6` as it was. -/
theorem update_last_write_wins :
    let db := ((((Database.empty.runSql "CREATE TABLE t (a INT, b VARCHAR(10));").1.runSql
      "INSERT INTO t VALUES (5, 'p');").1.runSql "INSERT INTO t VALUES (6, 'q');").1.runSql
      "INSERT INTO t VALUES (5, 'r');").1
    let sql := "UPDATE t SET b = 'x', B = 'y' WHERE a = 5;"
    let assignments : List Assignment := [⟨"b", "x"⟩, ⟨"B", "y"⟩]
    let cond : Option Comparison := some ⟨"a", .eq, "5"⟩
    db.Reachable ∧ parse sql = .ok (.update "t" assignments cond) ∧
      (db.runSql sql = db.updateOutcome "t" assignments cond ∧
        ∀ c v e, Value.coerce c v = .error e ↔
          (c.type = .int ∧ Text.parseInt64? v = none ∧ e = .invalidInteger c.name v) ∨
            ∃ m, c.type = .varchar m ∧ m.toNat < v.length ∧ e = .valueTooLong c.name m v) ∧
      ((db.updateOutcome "t" assignments cond).1.find? "t").map (·.store.rows) =
        some [⟨[.int 5, .text "y"]⟩, ⟨[.int 6, .text "q"]⟩, ⟨[.int 5, .text "y"]⟩] ∧
      (db.updateOutcome "t" assignments cond).2.toOption = some (.ofAffected 2 "2 row(s) updated") := by
  intro db sql assignments cond
  have reach : db.Reachable := .run _ (.run _ (.run _ (.run _ .empty)))
  have hparse : parse sql = .ok (.update "t" assignments cond) :=
    eq_ok_of_toOption (by decide +kernel)
  exact ⟨reach, hparse, runSql_update_outcome reach hparse, by decide +kernel, by decide +kernel⟩

end TinySql
