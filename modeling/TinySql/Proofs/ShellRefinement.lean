import TinySql.Proofs.ShellEffects
import TinySql.Proofs.Atomicity

/-!
The shell against the library. A session is simulated, line by line, by a small machine that
holds the trimmed lines of the statement gathered so far, the database, and whether a statement
that changes the database has succeeded. The machine runs each complete statement with
`Database.runSql` on its lines joined by single spaces and keeps the old database when it fails;
the shell instead keeps whatever database the failed statement leaves, and writes the snapshot
file only after a change succeeds. The two agree because a failed statement and a SELECT leave
the database exactly as it was, so the snapshot file, once written, always holds the current
database.
-/

namespace TinySql

/-! ### Trimmed lines -/

namespace Text

theorem trimList_eq_self {cs : List Char} (hhead : ∀ c ∈ cs.head?, isBlank c = false)
    (hlast : ∀ c ∈ cs.getLast?, isBlank c = false) : trimList cs = cs := by
  have hfront : cs.dropWhile isBlank = cs := by
    cases cs with
    | nil => rfl
    | cons c cs => simp [hhead c rfl]
  have hback : cs.reverse.dropWhile isBlank = cs.reverse := by
    cases hr : cs.reverse with
    | nil => rfl
    | cons c cs' =>
      have : cs.getLast? = some c := by rw [← List.head?_reverse, hr]; rfl
      simp [hlast c this]
  simp [trimList, hfront, hback]

theorem head?_trimList (cs : List Char) : ∀ c ∈ (trimList cs).head?, isBlank c = false := by
  intro c hc
  -- the first character kept is the first one not cut from the front
  have hsplit := List.takeWhile_append_dropWhile (p := isBlank) (l := (cs.dropWhile isBlank).reverse)
  simp only [trimList, List.head?_reverse] at hc
  have hlast : ((cs.dropWhile isBlank).reverse).getLast? = some c := by
    rw [← hsplit, List.getLast?_append, hc]
    rfl
  rw [List.getLast?_reverse] at hlast
  have := List.head?_dropWhile_not isBlank cs
  rw [hlast] at this
  exact this

theorem getLast?_trimList (cs : List Char) : ∀ c ∈ (trimList cs).getLast?, isBlank c = false := by
  intro c hc
  simp only [trimList, List.getLast?_reverse] at hc
  have := List.head?_dropWhile_not isBlank (cs.dropWhile isBlank).reverse
  rw [hc] at this
  exact this

theorem trim_eq_self_iff {s : String} :
    trim s = s ↔ (∀ c ∈ s.toList.head?, isBlank c = false) ∧
      ∀ c ∈ s.toList.getLast?, isBlank c = false := by
  constructor
  · intro h
    have hlist := congrArg String.toList h
    rw [trim, String.toList_ofList] at hlist
    rw [← hlist]
    exact ⟨head?_trimList _, getLast?_trimList _⟩
  · intro h
    rw [trim, trimList_eq_self h.1 h.2, String.ofList_toList]

theorem trim_trim (s : String) : trim (trim s) = trim s := by
  rw [trim_eq_self_iff, trim, String.toList_ofList]
  exact ⟨head?_trimList _, getLast?_trimList _⟩

theorem trim_append_space {p t : String} (hp : trim p = p) (hp0 : p ≠ "") (ht : trim t = t)
    (ht0 : t ≠ "") : trim (p ++ " " ++ t) = p ++ " " ++ t := by
  rw [trim_eq_self_iff] at hp ht ⊢
  have hpl : p.toList ≠ [] := by simpa using hp0
  have htl : t.toList ≠ [] := by simpa using ht0
  simp only [String.toList_append]
  constructor
  · intro c hc
    rw [List.append_assoc, List.head?_append_of_ne_nil _ hpl] at hc
    exact hp.1 c hc
  · intro c hc
    rw [List.getLast?_append_of_ne_nil _ htl] at hc
    exact ht.2 c hc

theorem intercalate_ne_empty {l : String} (hl : l ≠ "") (ls : List String) :
    " ".intercalate (l :: ls) ≠ "" := by
  cases ls with
  | nil => simpa using hl
  | cons u ls =>
    rw [String.intercalate_cons_cons, String.append_assoc, Ne, String.append_eq_empty_iff]
    exact fun h => hl h.1

theorem trim_intercalate : ∀ {ls : List String}, (∀ l ∈ ls, trim l = l ∧ l ≠ "") →
    trim (" ".intercalate ls) = " ".intercalate ls
  | [], _ => by decide
  | [l], h => by simpa using (h l (by simp)).1
  | l :: u :: ls, h => by
    have hl := h l (by simp)
    have hrest : trim (" ".intercalate (u :: ls)) = " ".intercalate (u :: ls) :=
      trim_intercalate fun x hx => h x (List.mem_cons_of_mem l hx)
    rw [String.intercalate_cons_cons]
    exact trim_append_space hl.1 hl.2 hrest (intercalate_ne_empty (h u (by simp)).2 ls)

theorem intercalate_append_singleton : ∀ {ls : List String}, ls ≠ [] → ∀ t : String,
    " ".intercalate (ls ++ [t]) = " ".intercalate ls ++ " " ++ t
  | [l], _, t => by simp [String.intercalate_cons_cons]
  | l :: u :: ls, _, t => by
    have ih := intercalate_append_singleton (List.cons_ne_nil u ls) t
    rw [List.cons_append] at ih
    rw [List.cons_append, List.cons_append, String.intercalate_cons_cons, ih,
      String.intercalate_cons_cons]
    simp only [String.append_assoc]

end Text

theorem Database.execute_of_not_isMutation {db : Database} {stmt : Sql.Statement}
    (h : stmt.isMutation = false) : (db.execute stmt).1 = db := by
  cases stmt <;> simp [Sql.Statement.isMutation] at h
  rfl

theorem Shell.restoredDb_reachable (e : Entry) : (Shell.restoredDb e).Reachable := by
  unfold Shell.restoredDb
  split
  · split
    · rename_i h
      exact .restore h
    · exact .empty
  all_goals exact .empty

namespace Shell

open Sql

/-! ### The machine -/

/-- The shell as the library sees it: the trimmed lines of the statement gathered so far, the
database, and whether a statement that changes the database has succeeded. -/
structure Machine where
  pending : List String
  db : Database
  saved : Bool

namespace Machine

/-- The machine before any line, when the snapshot path names `e`. -/
def start (e : Entry) : Machine := ⟨[], restoredDb e, false⟩

/-- Runs a complete statement: the database it leaves when it succeeds, the old one when it
fails. -/
def submit (m : Machine) (sql : String) : Machine :=
  match m.db.runSql sql with
  | (db, .ok _) => ⟨[], db, m.saved || (parse sql).toOption.any Statement.isMutation⟩
  | (_, .error _) => ⟨[], m.db, m.saved⟩

/-- Adds a trimmed line to the statement, and runs the statement once the line ends it. -/
def gather (m : Machine) (t : String) : Machine :=
  let lines := m.pending ++ [t]
  if t.endsWith ";" then m.submit (" ".intercalate lines) else { m with pending := lines }

/-- Takes one line; none when the line ends the session. Blank lines are skipped; between
statements `quit` ends the session, and so do the commands `.quit` and `.exit`, while other
commands leave the machine as it is. -/
def step (m : Machine) (line : String) : Option Machine :=
  let t := Text.trim line
  if t.isEmpty then some m
  else if (m.pending.isEmpty && isQuit t) = true then none
  else if (m.pending.isEmpty && t.startsWith ".") = true then
    if endsSession t then none else some m
  else some (m.gather t)

/-- Takes lines until they run out or one ends the session. -/
def run (m : Machine) : List String → Machine
  | [] => m
  | line :: rest =>
    match m.step line with
    | some m' => m'.run rest
    | none => m

end Machine

/-! ### The simulation -/

/-- How a session and the directory it writes stand to the machine, for a snapshot path and the
directory `d₀` the session started in. The session holds the machine's database and its lines
joined by spaces; the machine's database can be reached, so statements on it are all or
nothing; the snapshot file can be written; and until a change has succeeded the directory is the
one the session started in, after that the snapshot file holds the machine's database. -/
structure Refines (path : String) (d₀ : Directory) (s : Session) (d : Directory) (m : Machine) :
    Prop where
  snapshotPath : s.options.snapshotPath = some path
  db : s.db = m.db
  pending : s.pending = " ".intercalate m.pending
  lines : ∀ l ∈ m.pending, Text.trim l = l ∧ l ≠ ""
  reachable : m.db.Reachable
  writable : ∀ text, (d.write path text).2 = .ok ()
  file : if m.saved then d.inspect path = .file m.db.snapshot.toJson else d = d₀

section Simulation

variable {path : String} {d₀ d : Directory} {s : Session} {m : Machine}

theorem Refines.pending_isEmpty (hR : Refines path d₀ s d m) :
    s.pending.isEmpty = m.pending.isEmpty := by
  rw [hR.pending]
  cases hm : m.pending with
  | nil => rfl
  | cons l ls =>
    have hl := (hR.lines l (by simp [hm])).2
    simpa using Text.intercalate_ne_empty hl ls

theorem Refines.clear (hR : Refines path d₀ s d m) (h : History) :
    Refines path d₀ { s with db := m.db, pending := "", history := h } d ⟨[], m.db, m.saved⟩ :=
  { hR with db := rfl, pending := rfl, lines := by simp }

theorem execute_refines (hR : Refines path d₀ s d m) {sql : String} (hsql : Text.trim sql = sql)
    (h : History) :
    ∃ s' d', Yields ({ s with pending := "", history := h }.execute sql) d s' d' ∧
      Refines path d₀ s' d' (m.submit sql) := by
  have hy := Session.execute_yields (s := { s with pending := "", history := h }) hR.snapshotPath sql d
  rw [hsql] at hy
  unfold Machine.submit Database.runSql
  cases hp : parse sql with
  | error e =>
    simp only [hp] at hy ⊢
    exact ⟨_, _, hy, { hR with pending := rfl, lines := by simp }⟩
  | ok stmt =>
    rcases hex : m.db.execute stmt with ⟨db', result⟩
    have hrun : (m.db.runSql sql).1 = db' := by simp [Database.runSql, hp, hex]
    simp only [hp, hR.db, hex] at hy ⊢
    cases result with
    | error e =>
      -- a failed statement leaves the database as it was
      have hsame : db' = m.db := by
        have hfail : (m.db.execute stmt).2 = .error e := by rw [hex]
        have := Database.execute_error_unchanged hR.reachable.wellTyped hfail
        rwa [hex] at this
      subst hsame
      simp only [Except.isOk, Except.toBool, Bool.false_and, Bool.false_eq_true, if_false] at hy
      exact ⟨_, _, hy, hR.clear h⟩
    | ok r =>
      simp only [Except.isOk, Except.toBool, Bool.true_and, Except.toOption, Option.any_some] at hy ⊢
      have hreach : db'.Reachable := hrun ▸ Database.Reachable.run sql hR.reachable
      cases hm : stmt.isMutation with
      | false =>
        -- a SELECT leaves the database as it was, so the file is still current
        have hsame : db' = m.db := by
          have : (m.db.execute stmt).1 = m.db := Database.execute_of_not_isMutation hm
          rwa [hex] at this
        subst hsame
        simp only [hm, Bool.false_eq_true, if_false, Bool.or_false] at hy ⊢
        exact ⟨_, _, hy, hR.clear h⟩
      | true =>
        simp only [hm, if_true, Bool.or_true] at hy ⊢
        have hw := hR.writable db'.snapshot.toJson
        rcases hwrite : d.write path db'.snapshot.toJson with ⟨d', res⟩
        rw [hwrite] at hw hy
        cases hw
        refine ⟨_, _, hy, ⟨hR.snapshotPath, rfl, rfl, by simp, hreach, fun text => ?_, ?_⟩⟩
        · have := Directory.write_write_ok (hR.writable db'.snapshot.toJson) text
          rwa [hwrite] at this
        · exact Directory.inspect_of_write hwrite

theorem Refines.join (hR : Refines path d₀ s d m) (t : String) :
    (if s.pending.isEmpty then t else s.pending ++ " " ++ t) = " ".intercalate (m.pending ++ [t]) := by
  cases hm : m.pending with
  | nil => simp [hR.pending, hm]
  | cons l ls =>
    have hne : (" ".intercalate (l :: ls)).isEmpty = false := by
      simpa using Text.intercalate_ne_empty (hR.lines l (by simp [hm])).2 ls
    simp only [hR.pending, hm, hne, Bool.false_eq_true, if_false]
    rw [Text.intercalate_append_singleton (List.cons_ne_nil l ls)]

theorem gather_refines (hR : Refines path d₀ s d m) {t : String} (ht : Text.trim t = t ∧ t ≠ "")
    {pending : String} (hjoin : pending = " ".intercalate (m.pending ++ [t])) :
    ∃ s' d', Yields (if t.endsWith ";" = true then
          ({ s with pending := "", history := s.history.add pending }.execute pending >>=
            fun s => pure (s, true))
        else pure ({ s with pending }, true)) d (s', true) d' ∧
      Refines path d₀ s' d' (m.gather t) := by
  have hlines : ∀ l ∈ m.pending ++ [t], Text.trim l = l ∧ l ≠ "" := by
    intro l hl
    rcases List.mem_append.1 hl with hl | hl
    · exact hR.lines l hl
    · rw [List.mem_singleton.1 hl]
      exact ht
  unfold Machine.gather
  by_cases hsemi : t.endsWith ";" = true
  · rw [if_pos hsemi, if_pos hsemi, ← hjoin]
    have htrim : Text.trim pending = pending := by
      rw [hjoin]
      exact Text.trim_intercalate hlines
    obtain ⟨s', d', hy, hR'⟩ := execute_refines hR htrim (s.history.add pending)
    exact ⟨s', d', Yields.bind hy (Yields.pure _ _), hR'⟩
  · rw [if_neg hsemi, if_neg hsemi]
    exact ⟨_, d, Yields.pure _ d, { hR with pending := hjoin, lines := hlines }⟩

theorem feed_refines (hR : Refines path d₀ s d m) (line : String) :
    ∃ s' d', Yields (s.feed line) d (s', (m.step line).isSome) d' ∧
      Refines path d₀ s' d' ((m.step line).getD m) := by
  have hjoin := hR.join (Text.trim line)
  have hempty := hR.pending_isEmpty
  unfold Session.feed Machine.step
  dsimp only
  by_cases hblank : (Text.trim line).isEmpty = true
  · rw [if_pos hblank, if_pos hblank]
    exact ⟨s, d, Yields.pure _ d, hR⟩
  rw [if_neg hblank, if_neg hblank]
  have ht : Text.trim (Text.trim line) = Text.trim line ∧ Text.trim line ≠ "" :=
    ⟨Text.trim_trim line, by simpa using hblank⟩
  cases hpend : s.pending.isEmpty with
  | false =>
    -- inside a statement every line is part of it, `quit` and commands included
    rw [hpend] at hempty
    simp only [hpend, ← hempty, Bool.false_and, Bool.false_eq_true, if_false, Option.isSome_some,
      Option.getD_some] at hjoin ⊢
    exact gather_refines hR ht hjoin
  | true =>
    rw [hpend] at hempty
    simp only [hpend, ← hempty, Bool.true_and, if_true] at hjoin ⊢
    by_cases hq : isQuit (Text.trim line) = true
    · rw [if_pos hq, if_pos hq]
      exact ⟨s, d, Yields.pure _ d, hR⟩
    rw [if_neg hq, if_neg hq]
    by_cases hdot : (Text.trim line).startsWith "." = true
    · rw [if_pos hdot, if_pos hdot]
      have hc := Session.command_yields { s with history := s.history.add (Text.trim line) }
        (Text.trim line) d
      have hmore : (if endsSession (Text.trim line) = true then none else some m).isSome =
          !endsSession (Text.trim line) := by
        cases endsSession (Text.trim line) <;> rfl
      have hsame : (if endsSession (Text.trim line) = true then none else some m).getD m = m := by
        cases endsSession (Text.trim line) <;> rfl
      rw [hmore, hsame]
      exact ⟨_, d, Yields.bind hc (Yields.pure _ d), { hR with }⟩
    · rw [if_neg hdot, if_neg hdot]
      simp only [Option.isSome_some, Option.getD_some]
      exact gather_refines hR ht hjoin

theorem feedAll_refines (lines : List String) :
    ∀ {s d m}, Refines path d₀ s d m →
      ∃ s' d', Yields (s.feedAll lines) d s' d' ∧ Refines path d₀ s' d' (m.run lines) := by
  induction lines with
  | nil => exact fun {s d m} hR => ⟨s, d, Yields.pure _ d, hR⟩
  | cons line rest ih =>
    intro s d m hR
    obtain ⟨s₁, d₁, hy, hR₁⟩ := feed_refines hR line
    unfold Session.feedAll Machine.run
    cases hstep : m.step line with
    | none =>
      rw [hstep] at hy hR₁
      exact ⟨s₁, d₁, Yields.bind hy (Yields.pure _ _), hR₁⟩
    | some m' =>
      rw [hstep] at hy hR₁
      obtain ⟨s₂, d₂, hy₂, hR₂⟩ := ih hR₁
      exact ⟨s₂, d₂, Yields.bind hy hy₂, hR₂⟩

end Simulation

theorem Refines.start {o : Options} {path : String} (hpath : o.snapshotPath = some path)
    {d : Directory} (hwrite : ∀ text, (d.write path text).2 = .ok ()) (h : History) :
    Refines path d ⟨o, restoredDb (d.inspect path), "", h⟩ d (Machine.start (d.inspect path)) where
  snapshotPath := hpath
  db := rfl
  pending := rfl
  lines := by simp [Machine.start]
  reachable := restoredDb_reachable _
  writable := hwrite
  file := rfl

/-- A session whose snapshot file can be written is simulated by the machine over any input.
After the lines, read until one ends the session, the session holds the machine's database and
its pending lines joined by spaces. Once a statement that changes the database has succeeded,
the snapshot file holds the JSON of that database, later failures and SELECTs notwithstanding;
until then the file is as it was. -/
theorem session_simulated_by_machine {o : Options} {path : String}
    (hpath : o.snapshotPath = some path) {d : Directory}
    (hwrite : ∀ text, (d.write path text).2 = .ok ()) (lines : List String) (tr : Transcript) :
    let r := ((Session.start o >>= fun s => s.feedAll lines : ShellM (StateM Directory) Session).run
      tr).run d
    let m := (Machine.start (d.inspect path)).run lines
    r.1.1.db = m.db ∧ r.1.1.pending = " ".intercalate m.pending ∧
      r.2.inspect path = if m.saved then .file m.db.snapshot.toJson else d.inspect path := by
  intro r m
  obtain ⟨h, hstart⟩ := Session.start_yields hpath d
  obtain ⟨s', d', hy, hR⟩ := feedAll_refines lines (Refines.start hpath hwrite h)
  obtain ⟨tr', hrun⟩ := Yields.bind (f := fun s => s.feedAll lines) hstart hy tr
  have hr : r = ((s', tr'), d') := hrun
  rw [hr]
  refine ⟨hR.db, hR.pending, ?_⟩
  have hfile := hR.file
  by_cases hs : m.saved = true
  · rw [if_pos hs] at hfile ⊢
    exact hfile
  · rw [if_neg hs] at hfile ⊢
    rw [hfile]

/-- A session with its snapshot file at `db.json` in an empty directory. A table is created and
filled by a statement over two lines, a blank line between them; a SELECT of a missing table
fails and changes nothing; `quit` ends the session, so the last line is never run. The snapshot
file holds the table with its one row. -/
theorem session_saves_after_change :
    let o : Options := { snapshotPath := some "db.json" }
    let lines := ["CREATE TABLE t (a INT);", "  insert into t", "", "VALUES (1);",
      "SELECT * FROM u;", "quit", "INSERT INTO t VALUES (2);"]
    let r := ((Session.start o >>= fun s => s.feedAll lines : ShellM (StateM Directory) Session).run
      {}).run Directory.empty
    let m := (Machine.start (Directory.empty.inspect "db.json")).run lines
    o.snapshotPath = some "db.json" ∧ (∀ text, (Directory.empty.write "db.json" text).2 = .ok ()) ∧
      (r.1.1.db = m.db ∧ r.1.1.pending = " ".intercalate m.pending ∧
        r.2.inspect "db.json" =
          if m.saved then .file m.db.snapshot.toJson else Directory.empty.inspect "db.json") ∧
      m.saved = true ∧ m.pending = [] ∧
        (m.db.find? "t").map (·.store.rows) = some [⟨[.int 1]⟩] := by
  intro o lines r m
  have hc : Directory.components "db.json" = ["db.json"] := by
    unfold Directory.components String.splitOn
    simp +decide only [if_false]
    repeat (rw [String.splitOnAux]; simp +decide)
  have hwrite : ∀ text, (Directory.empty.write "db.json" text).2 = .ok () := by
    intro text
    have hend : "db.json".endsWith "/" = false := by decide +kernel
    simp +decide [Directory.write, hc, hend, Directory.walkFault, Directory.isDir, Directory.empty]
  have hinspect : Directory.empty.inspect "db.json" = .missing := by
    have hend : "db.json".endsWith "/" = false := by decide +kernel
    simp +decide [Directory.inspect, Directory.tooLong, hc, hend, Directory.fileAt?,
      Directory.isDir, Directory.empty]
  have hm : m = (Machine.start .missing).run lines := by
    simp only [m, hinspect]
  refine ⟨rfl, hwrite, session_simulated_by_machine rfl hwrite lines {}, ?_, ?_, ?_⟩
  all_goals rw [hm]; decide +kernel

end Shell

end TinySql
