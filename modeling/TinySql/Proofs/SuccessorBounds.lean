import TinySql.Proofs.UpdateOutcome
import TinySql.Proofs.Printing
import TinySql.Proofs.IntegerLiterals

/-!
Strict and non-strict bounds on an INT column. On integers `x > k` says the same as
`x >= k + 1`, and `x < k + 1` the same as `x <= k`; a WHERE clause on an INT column compares
the column's integers with the integer its literal denotes, so the two forms keep the same
rows, and SELECT and UPDATE run alike with either. This needs both bounds to be 64-bit
integers: at `k = 9223372036854775807` the successor is no literal an INT column compares with,
so `x >= k + 1` fails on a table that has a row, where `x > k` keeps none.

Two WHERE clauses are alike on a table (`Table.SameWhere`) when the table refuses both with one
error or they keep the same of its rows; SELECT and UPDATE depend on their WHERE clause only so
far (`selectOutcome_congr`, `updateOutcome_congr`).
-/

namespace TinySql

open Sql Text

theorem Text.IntegerLiteral.isLiteral {s : String} {v : Int} (h : IntegerLiteral s v) :
    isLiteral s := by
  obtain ⟨sign, ds, hs, -, hdig, hsign⟩ := h
  rw [isLiteral_iff, hs, List.mem_append]
  rintro (hq | hq)
  · rcases hsign with ⟨rfl | rfl, -⟩ | ⟨rfl, -⟩ <;> simp at hq
  · exact absurd (hdig _ hq) (by decide)

namespace Table

/-- Two WHERE clauses that the table refuses with the same error, or that keep the same of its
rows. -/
def SameWhere (t : Table) (c₁ c₂ : Option Comparison) : Prop :=
  (∃ e, t.whereTest c₁ = .error e ∧ t.whereTest c₂ = .error e) ∨
    ∃ keep₁ keep₂, t.whereTest c₁ = .ok keep₁ ∧ t.whereTest c₂ = .ok keep₂ ∧
      ∀ r ∈ t.store.rows, keep₁ r = keep₂ r

theorem whereTest_int {t : Table} {c : Comparison} {i : Nat} {col : Column}
    (hc : t.schema.lookup? c.column = some (i, col)) {m : Int64}
    (hm : parseInt64? c.literal = some m) : t.whereTest (some c) = .ok fun r => r.satisfies i c := by
  simp [whereTest, hc, hm]

theorem satisfies_int {r : Row} {i : Nat} {w : Int64} (hv : r.values[i]? = some (.int w))
    {c : Comparison} {m : Int64} (hm : parseInt64? c.literal = some m) :
    r.satisfies i c = c.op.holds (compare w.toInt m.toInt) := by
  rw [Row.satisfies, hv]
  dsimp only
  rw [Value.compareLiteral_int, hm]

theorem sameWhere_of_holds {t : Table} (ht : t.WellTyped) {column : String} {i : Nat}
    {col : Column} (hc : t.schema.lookup? column = some (i, col)) (hint : col.type = .int)
    {op₁ op₂ : CompareOp} {a b : Int} (ha : IsInt64 a) (hb : IsInt64 b)
    (hsame : ∀ x : Int, op₁.holds (compare x a) = op₂.holds (compare x b)) :
    t.SameWhere (some ⟨column, op₁, a.repr⟩) (some ⟨column, op₂, b.repr⟩) := by
  have hma := parseInt64?_repr ha
  have hmb := parseInt64?_repr hb
  have h1 := whereTest_int (c := ⟨column, op₁, a.repr⟩) hc hma
  have h2 := whereTest_int (c := ⟨column, op₂, b.repr⟩) hc hmb
  refine .inr ⟨_, _, h1, h2, fun r hr => ?_⟩
  -- the row holds an integer at the column, as every row of a well-typed table does
  have hcol : t.schema.columns[i]? = some col := by
    simpa using (Schema.findColumn_getElem? hc).2
  obtain ⟨v, hv, hadm⟩ := exists_of_forall₂_getElem? (ht r hr) hcol
  rw [hint, DataType.admits_int] at hadm
  obtain ⟨w, rfl⟩ := hadm
  rw [satisfies_int (c := ⟨column, op₁, a.repr⟩) hv hma,
    satisfies_int (c := ⟨column, op₂, b.repr⟩) hv hmb, toInt_ofInt_of_isInt64 ha,
    toInt_ofInt_of_isInt64 hb]
  exact hsame w.toInt

end Table

/-! ## SELECT and UPDATE see a WHERE clause only through the rows it keeps -/

namespace Database

theorem selectOutcome_congr {db : Database} {name : String} {t : Table}
    (hfind : db.find? name = some t) {c₁ c₂ : Option Comparison} (h : t.SameWhere c₁ c₂)
    (proj : Projection) : db.selectOutcome proj name c₁ = db.selectOutcome proj name c₂ := by
  unfold selectOutcome
  rw [hfind]
  rcases h with ⟨e, h₁, h₂⟩ | ⟨keep₁, keep₂, h₁, h₂, hkeep⟩
  · simp only [h₁, h₂]
  · have hrows : t.store.rows.filter keep₁ = t.store.rows.filter keep₂ := List.filter_congr hkeep
    simp only [h₁, h₂, hrows]

theorem updateOutcome_congr {db : Database} {name : String} {t : Table}
    (hfind : db.find? name = some t) {c₁ c₂ : Option Comparison} (h : t.SameWhere c₁ c₂)
    (assignments : List Assignment) :
    db.updateOutcome name assignments c₁ = db.updateOutcome name assignments c₂ := by
  unfold updateOutcome
  rw [hfind]
  rcases h with ⟨e, h₁, h₂⟩ | ⟨keep₁, keep₂, h₁, h₂, hkeep⟩
  · simp only [h₁, h₂]
  · have hhits : t.store.rows.filter keep₁ = t.store.rows.filter keep₂ := List.filter_congr hkeep
    have hrows : ∀ g : Row → Row, t.store.rows.map (fun r => if keep₁ r then g r else r) =
        t.store.rows.map (fun r => if keep₂ r then g r else r) :=
      fun g => List.map_congr_left fun r hr => by rw [hkeep r hr]
    simp only [h₁, h₂, hhits, hrows]

theorem execute_select_congr {db : Database} (hdb : db.WellTyped) {name : String} {t : Table}
    (hfind : db.find? name = some t) {c₁ c₂ : Option Comparison} (h : t.SameWhere c₁ c₂)
    (proj : Projection) : db.execute (.select proj name c₁) = db.execute (.select proj name c₂) := by
  simp only [execute, select_eq_outcome hdb, selectOutcome_congr hfind h proj]

theorem execute_update_congr {db : Database} (hdb : db.WellTyped) {name : String} {t : Table}
    (hfind : db.find? name = some t) {c₁ c₂ : Option Comparison} (h : t.SameWhere c₁ c₂)
    (assignments : List Assignment) :
    db.execute (.update name assignments c₁) = db.execute (.update name assignments c₂) := by
  rw [execute_update hdb, execute_update hdb, updateOutcome_congr hfind h]

end Database

/-! ## Successor bounds on integers -/

theorem CompareOp.holds_compare (op : CompareOp) (x y : Int) :
    op.holds (compare x y) = match op with
      | .eq => decide (x = y) | .ne => decide (x ≠ y) | .gt => decide (y < x)
      | .lt => decide (x < y) | .ge => decide (y ≤ x) | .le => decide (x ≤ y) := by
  rcases lt_trichotomy x y with h | rfl | h
  · rw [compare_lt_iff_lt.2 h]
    cases op <;> simp [CompareOp.holds, bne] <;> omega
  · rw [compare_eq_iff_eq.2 rfl]
    cases op <;> simp [CompareOp.holds, bne]
  · rw [compare_gt_iff_gt.2 h]
    cases op <;> simp [CompareOp.holds, bne] <;> omega

theorem holds_gt_eq_holds_ge_succ (x k : Int) :
    CompareOp.gt.holds (compare x k) = CompareOp.ge.holds (compare x (k + 1)) := by
  rw [CompareOp.holds_compare, CompareOp.holds_compare]
  simp only [decide_eq_decide]
  omega

theorem holds_lt_succ_eq_holds_le (x k : Int) :
    CompareOp.lt.holds (compare x (k + 1)) = CompareOp.le.holds (compare x k) := by
  rw [CompareOp.holds_compare, CompareOp.holds_compare]
  simp only [decide_eq_decide]
  omega

namespace Table

variable {t : Table} {column : String} {i : Nat} {col : Column}

theorem sameWhere_gt_ge (ht : t.WellTyped) (hc : t.schema.lookup? column = some (i, col))
    (hint : col.type = .int) {k : Int} (hk : IsInt64 k) (hk' : IsInt64 (k + 1)) :
    t.SameWhere (some ⟨column, .gt, k.repr⟩) (some ⟨column, .ge, (k + 1).repr⟩) :=
  sameWhere_of_holds ht hc hint hk hk' fun x => holds_gt_eq_holds_ge_succ x k

theorem sameWhere_lt_le (ht : t.WellTyped) (hc : t.schema.lookup? column = some (i, col))
    (hint : col.type = .int) {k : Int} (hk : IsInt64 k) (hk' : IsInt64 (k + 1)) :
    t.SameWhere (some ⟨column, .lt, (k + 1).repr⟩) (some ⟨column, .le, k.repr⟩) :=
  sameWhere_of_holds ht hc hint hk' hk fun x => holds_lt_succ_eq_holds_le x k

end Table

/-! ## At the top of the range -/

namespace Database

variable {db : Database} {name column : String} {t : Table} {i : Nat} {col : Column}

theorem selectOutcome_gt_max (hdb : db.WellTyped) (hfind : db.find? name = some t)
    (hc : t.schema.lookup? column = some (i, col)) (hint : col.type = .int) :
    db.selectOutcome .all name (some ⟨column, .gt, "9223372036854775807"⟩) =
      .ok (.ofRows t.schema.columnNames []) := by
  have hmax : parseInt64? "9223372036854775807" = some (Int64.ofInt 9223372036854775807) := by
    have hrepr : (9223372036854775807 : Int).repr = "9223372036854775807" := by decide
    rw [← hrepr]
    exact parseInt64?_repr (by decide)
  have ht : t.WellTyped := hdb t (mem_of_get (get_of_find? hfind))
  unfold selectOutcome
  rw [hfind]
  dsimp only
  rw [Table.whereTest_int (c := ⟨column, .gt, "9223372036854775807"⟩) hc hmax]
  dsimp only
  rw [List.filter_eq_nil_iff.2 fun r hr => ?_]
  -- every stored value is an integer at most the largest one
  have hcol : t.schema.columns[i]? = some col := by
    simpa using (Schema.findColumn_getElem? hc).2
  obtain ⟨v, hv, hadm⟩ := exists_of_forall₂_getElem? (ht r hr) hcol
  rw [hint, DataType.admits_int] at hadm
  obtain ⟨w, rfl⟩ := hadm
  rw [Table.satisfies_int (c := ⟨column, .gt, "9223372036854775807"⟩) hv hmax,
    CompareOp.holds_compare, toInt_ofInt_of_isInt64 (by decide)]
  have hw := (isInt64_toInt w).2
  simp only [decide_eq_true_eq, not_lt]
  exact hw

theorem selectOutcome_ge_overflow (hfind : db.find? name = some t)
    (hc : t.schema.lookup? column = some (i, col)) (hint : col.type = .int) :
    db.selectOutcome .all name (some ⟨column, .ge, "9223372036854775808"⟩) =
      if t.store.rows = [] then .ok (.ofRows t.schema.columnNames [])
      else .error (.nonNumericComparison column "9223372036854775808") := by
  have hover : parseInt64? "9223372036854775808" = none := by decide
  unfold selectOutcome
  rw [hfind]
  by_cases hrows : t.store.rows = []
  · simp [Table.whereTest, hc, hrows]
  · simp [Table.whereTest, hc, hint, hover, hrows]

end Database

/-! ## The statements as written -/

theorem Database.runSql_print {s : Statement} (h : s.isPrintable) (db : Database) :
    db.runSql s.print = db.execute s := by
  rw [Database.runSql, parse_print h]

theorem select_isPrintable {name column literal : String} {op : CompareOp} (hname : isName name)
    (hcolumn : isName column) (hlit : isLiteral literal) :
    (Statement.select .all name (some ⟨column, op, literal⟩)).isPrintable := by
  simp [Statement.isPrintable, Projection.isPrintable, Comparison.isPrintable, hname, hcolumn,
    hlit]

theorem update_isPrintable {name column literal : String} {op : CompareOp}
    {assignments : List Assignment} (hname : isName name) (hne : assignments ≠ [])
    (has : assignments.all Assignment.isPrintable) (hcolumn : isName column)
    (hlit : isLiteral literal) :
    (Statement.update name assignments (some ⟨column, op, literal⟩)).isPrintable := by
  simp only [List.all_eq_true] at has
  simp only [Statement.isPrintable, Comparison.isPrintable, hname, hcolumn, hlit, Bool.and_true,
    Bool.true_and, Option.all_some, Bool.and_eq_true, Bool.not_eq_true', List.isEmpty_eq_false_iff,
    List.all_eq_true]
  exact ⟨hne, has⟩

open Database in
/-- On an INT column of a table of a reachable database, `c > k` and `c >= k + 1` select the
same rows, and so do `c < k + 1` and `c <= k`, whenever `k` and `k + 1` are 64-bit integers
written in decimal (between quotes when negative, as a literal that is no run of digits is
written): SELECT returns the same result with either, and UPDATE the same database and result.
At the top of the range the law fails: `c > 9223372036854775807` selects no row, while
`c >= 9223372036854775808` is refused as soon as the table has a row. -/
theorem where_successor_bounds {db : Database} (hdb : db.Reachable) {name column : String}
    {t : Table} {i : Nat} {col : Column} (hnames : isName name ∧ isName column)
    (hfind : db.find? name = some t) (hc : t.schema.lookup? column = some (i, col))
    (hint : col.type = .int) :
    (∀ k : Int, -9223372036854775808 ≤ k → k < 9223372036854775807 →
      db.runSql (Statement.select .all name (some ⟨column, .gt, k.repr⟩)).print =
          db.runSql (Statement.select .all name (some ⟨column, .ge, (k + 1).repr⟩)).print ∧
        db.runSql (Statement.select .all name (some ⟨column, .lt, (k + 1).repr⟩)).print =
          db.runSql (Statement.select .all name (some ⟨column, .le, k.repr⟩)).print ∧
        ∀ assignments : List Assignment, assignments ≠ [] →
          assignments.all Assignment.isPrintable →
          db.runSql (Statement.update name assignments (some ⟨column, .gt, k.repr⟩)).print =
              db.runSql (Statement.update name assignments (some ⟨column, .ge, (k + 1).repr⟩)).print ∧
            db.runSql (Statement.update name assignments (some ⟨column, .lt, (k + 1).repr⟩)).print =
              db.runSql (Statement.update name assignments (some ⟨column, .le, k.repr⟩)).print) ∧
    db.runSql (Statement.select .all name (some ⟨column, .gt, "9223372036854775807"⟩)).print =
      (db, .ok (.ofRows t.schema.columnNames [])) ∧
    db.runSql (Statement.select .all name (some ⟨column, .ge, "9223372036854775808"⟩)).print =
      (db, if t.store.rows = [] then .ok (.ofRows t.schema.columnNames [])
        else .error (.nonNumericComparison column "9223372036854775808")) := by
  obtain ⟨hname, hcolumn⟩ := hnames
  have hwell := hdb.wellTyped
  have ht : t.WellTyped := hwell t (mem_of_get (get_of_find? hfind))
  have hlit : ∀ k : Int, isLiteral k.repr := fun k => (integerLiteral_repr k).isLiteral
  refine ⟨fun k hlo hhi => ?_, ?_, ?_⟩
  · have hk : IsInt64 k := ⟨hlo, by omega⟩
    have hk' : IsInt64 (k + 1) := ⟨by omega, by omega⟩
    have hgt := Table.sameWhere_gt_ge ht hc hint hk hk'
    have hlt := Table.sameWhere_lt_le ht hc hint hk hk'
    refine ⟨?_, ?_, fun assignments hne has => ⟨?_, ?_⟩⟩
    · rw [runSql_print (select_isPrintable hname hcolumn (hlit _)),
        runSql_print (select_isPrintable hname hcolumn (hlit _))]
      exact execute_select_congr hwell hfind hgt .all
    · rw [runSql_print (select_isPrintable hname hcolumn (hlit _)),
        runSql_print (select_isPrintable hname hcolumn (hlit _))]
      exact execute_select_congr hwell hfind hlt .all
    · rw [runSql_print (update_isPrintable hname hne has hcolumn (hlit _)),
        runSql_print (update_isPrintable hname hne has hcolumn (hlit _))]
      exact execute_update_congr hwell hfind hgt assignments
    · rw [runSql_print (update_isPrintable hname hne has hcolumn (hlit _)),
        runSql_print (update_isPrintable hname hne has hcolumn (hlit _))]
      exact execute_update_congr hwell hfind hlt assignments
  · rw [runSql_print (select_isPrintable hname hcolumn (by decide))]
    simp only [execute, select_eq_outcome hwell, selectOutcome_gt_max hwell hfind hc hint]
  · rw [runSql_print (select_isPrintable hname hcolumn (by decide))]
    simp only [execute, select_eq_outcome hwell, selectOutcome_ge_overflow hfind hc hint]

/-- On a table holding `a = 1` and `a = -3`, `a > '-4'` and `a >= '-3'` select alike, written
with quoted negative bounds, and `a >= 9223372036854775808` is refused. -/
theorem quoted_negative_bounds_agree :
    let db := (((Database.empty.runSql "CREATE TABLE t (a INT, b VARCHAR(5));").1.runSql
      "INSERT INTO t VALUES (1, 'x');").1.runSql "INSERT INTO t VALUES ('-3', 'y');").1
    let tbl : Table :=
      ⟨⟨"t", [⟨"a", .int⟩, ⟨"b", .varchar 5⟩]⟩, ⟨[⟨[.int 1, .text "x"]⟩, ⟨[.int (-3), .text "y"]⟩]⟩⟩
    db.Reachable ∧ (isName "t" ∧ isName "a") ∧ db.find? "t" = some tbl ∧
      tbl.schema.lookup? "a" = some (0, ⟨"a", .int⟩) ∧
      (Statement.select .all "t" (some ⟨"a", .gt, (-4 : Int).repr⟩)).print =
        "SELECT * FROM t WHERE a > '-4' ;" ∧
      (Statement.select .all "t" (some ⟨"a", .ge, (-4 + 1 : Int).repr⟩)).print =
        "SELECT * FROM t WHERE a >= '-3' ;" ∧
      db.runSql "SELECT * FROM t WHERE a > '-4' ;" = db.runSql "SELECT * FROM t WHERE a >= '-3' ;" ∧
      (db.runSql (Statement.select .all "t" (some ⟨"a", .ge, "9223372036854775808"⟩)).print).2 =
        .error (.nonNumericComparison "a" "9223372036854775808") := by
  intro db tbl
  have reach : db.Reachable := .run _ (.run _ (.run _ .empty))
  have hnames : isName "t" ∧ isName "a" := by decide
  have hfind : db.find? "t" = some tbl := by decide +kernel
  have hc : tbl.schema.lookup? "a" = some (0, ⟨"a", .int⟩) := by decide
  have hgt : (Statement.select .all "t" (some ⟨"a", .gt, (-4 : Int).repr⟩)).print =
      "SELECT * FROM t WHERE a > '-4' ;" := by decide
  have hge : (Statement.select .all "t" (some ⟨"a", .ge, (-4 + 1 : Int).repr⟩)).print =
      "SELECT * FROM t WHERE a >= '-3' ;" := by decide
  obtain ⟨hsucc, -, hover⟩ := where_successor_bounds reach hnames hfind hc rfl
  have hrows : tbl.store.rows ≠ [] := by decide
  refine ⟨reach, hnames, hfind, hc, hgt, hge, ?_, ?_⟩
  · rw [← hgt, ← hge]
    exact (hsucc (-4) (by decide) (by decide)).1
  · rw [hover, if_neg hrows]

end TinySql
