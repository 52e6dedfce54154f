import TinySql.Shell.Session
import TinySql.Proofs.SnapshotRoundTrip

/-!
What each step of a shell session does to its state and to the files, whatever it prints. A
session runs in `ShellM (StateM Directory)`: it appends to a transcript and reads and writes a
directory held in memory. `Yields x d a d'` says that `x`, started on the directory `d` after any
transcript, returns `a` and leaves the directory `d'`. The transcript never feeds back into a
session, so these facts compose by `bind` and carry each session function to one lemma: restoring
the snapshot and loading the history only read, a command only prints, and running a statement
writes the snapshot file exactly when a statement that can change the database has succeeded.
-/

namespace TinySql

/-! ### Writing a file twice -/

namespace Directory

theorem fileAt?_write_other {d : Directory} {names q : List String} {text : String}
    (hq : q ≠ names) :
    (⟨(names, text) :: d.files.filter (·.1 != names), d.dirs⟩ : Directory).fileAt? q = d.fileAt? q := by
  have hne : (names == q) = false := beq_false_of_ne (Ne.symm hq)
  simp only [fileAt?, List.find?_cons, hne, List.find?_filter]
  -- the entries dropped are those at `names`, which `q` does not find anyway
  congr 2
  funext f
  by_cases hf : f.1 = q <;> simp [hf, hq]

theorem isDir_write_self {d : Directory} {names : List String} {text : String}
    (h : d.isDir names = false) :
    (⟨(names, text) :: d.files.filter (·.1 != names), d.dirs⟩ : Directory).isDir names = false := by
  simp only [isDir, Bool.or_eq_false_iff, List.any_eq_false] at h ⊢
  refine ⟨h.1, fun f hf => ?_⟩
  rcases List.mem_cons.1 hf with rfl | hf
  · simp
  · exact h.2 f (List.mem_filter.1 hf).1

theorem walkFault_write {d : Directory} {names : List String} {text : String} :
    ∀ {done rest : List String}, done ++ rest = names → d.walkFault done rest = none →
      (⟨(names, text) :: d.files.filter (·.1 != names), d.dirs⟩ : Directory).walkFault done rest = none
  | _, [], _, _ => by simp [walkFault]
  | _, [_], _, h => by simpa [walkFault] using h
  | done, n :: m :: rest, hnames, h => by
    have hprefix : done ++ [n] ≠ names := by
      intro heq
      rw [← heq] at hnames
      simp at hnames
    have hdir : (⟨(names, text) :: d.files.filter (·.1 != names), d.dirs⟩ : Directory).isDir
        (done ++ [n]) = true := by
      simp only [isDir, List.any_cons, Bool.or_eq_true, List.length_append, List.length_singleton]
      refine .inr (.inl ?_)
      rw [← hnames]
      simp [List.take_append, List.take_of_length_le]
    unfold walkFault at h ⊢
    rw [fileAt?_write_other hprefix, hdir]
    split at h
    · cases h
    · rename_i hlong
      rw [if_neg hlong]
      split at h
      · cases h
      · rename_i hfile
        rw [if_neg hfile]
        split at h
        · cases h
        · exact walkFault_write (by rw [← hnames]; simp) h

theorem write_write_ok {d : Directory} {path text : String} (h : (d.write path text).2 = .ok ())
    (text' : String) : ((d.write path text).1.write path text').2 = .ok () := by
  unfold write at h ⊢
  by_cases hempty : path.isEmpty
  · simp [hempty] at h
  by_cases hlong : path.utf8ByteSize > pathLimit
  · simp [hempty, hlong] at h
  cases hw : d.walkFault [] (components path) with
  | some e => simp [hempty, hlong, hw] at h
  | none =>
    by_cases hdir : (d.isDir (components path) || path.endsWith "/") = true
    · simp [hempty, hlong, hw, hdir] at h
    · -- the file now at the path is no directory, and the walk down to it is still clear
      simp only [Bool.or_eq_true, not_or, Bool.not_eq_true] at hdir
      simp [hempty, hlong, hw, hdir, walkFault_write (List.nil_append _) hw,
        isDir_write_self hdir.1]

end Directory

namespace Shell

open Sql

/-- What a shell computation over a directory in memory does: started on the directory `d`
after any transcript, it returns `a` and leaves the directory `d'`. -/
def Yields {α : Type} (x : ShellM (StateM Directory) α) (d : Directory) (a : α) (d' : Directory) :
    Prop :=
  ∀ tr, ∃ tr', (x.run tr).run d = ((a, tr'), d')

namespace Yields

variable {α β : Type} {d d₁ d₂ : Directory} {a : α} {b : β}

theorem pure (a : α) (d : Directory) : Yields (Pure.pure a) d a d := fun tr => ⟨tr, rfl⟩

theorem bind {x : ShellM (StateM Directory) α} {f : α → ShellM (StateM Directory) β}
    (hx : Yields x d a d₁) (hf : Yields (f a) d₁ b d₂) : Yields (x >>= f) d b d₂ := by
  intro tr
  obtain ⟨tr₁, h₁⟩ := hx tr
  obtain ⟨tr₂, h₂⟩ := hf tr₁
  exact ⟨tr₂, by simp only [StateT.run_bind, h₁]; exact h₂⟩

theorem ite_bind {c : Prop} [Decidable c] {x : ShellM (StateM Directory) Unit}
    {k : Unit → ShellM (StateM Directory) α} (hx : Yields x d () d) (hk : Yields (k ()) d a d₁) :
    Yields (if c then x >>= k else k ()) d a d₁ := by
  split
  · exact bind hx hk
  · exact hk

theorem lift {y : StateM Directory α} (h : y.run d = (a, d₁)) :
    Yields (liftM y : ShellM (StateM Directory) α) d a d₁ := fun tr => ⟨tr, by
  show (StateT.lift y tr).run d = _
  simp [StateT.lift, h]
  rfl⟩

theorem say (text : String) (d : Directory) : Yields (Shell.say text) d () d := fun _ => ⟨_, rfl⟩

theorem complain (text : String) (d : Directory) : Yields (Shell.complain text) d () d :=
  fun _ => ⟨_, rfl⟩

theorem log (verbose : Bool) (e : LogEvent) (d : Directory) : Yields (Shell.log verbose e) d () d := by
  unfold Shell.log
  split
  · exact complain _ d
  · exact pure () d

theorem forM {l : List β} {f : β → ShellM (StateM Directory) Unit} (hf : ∀ x ∈ l, Yields (f x) d () d) :
    Yields (l.forM f) d () d := by
  induction l with
  | nil => exact pure () d
  | cons x l ih =>
    exact bind (hf x List.mem_cons_self) (ih fun y hy => hf y (List.mem_cons_of_mem x hy))

end Yields

/-- The database a session starts from when the snapshot path names `e`: the tables of the
snapshot there, empty, or none when the path names nothing or the snapshot cannot be read or
restored. -/
def restoredDb (e : Entry) : Database :=
  match Snapshot.ofEntry e with
  | .ok (some snap) =>
    match Database.ofSnapshot snap with
    | .ok db => db
    | .error _ => .empty
  | .ok none | .error _ => .empty

/-- Whether a command line ends the session: its first word is `.quit` or `.exit`. -/
def endsSession (line : String) : Bool :=
  (Text.words line).head?.any fun w => w == ".quit" || w == ".exit"

namespace Session

theorem restore_yields {o : Options} {path : String} (hpath : o.snapshotPath = some path)
    (d : Directory) : Yields (restore o) d (restoredDb (d.inspect path)) d := by
  unfold restore restoredDb
  simp only [hpath]
  refine Yields.bind (Yields.lift (Snapshot.load_run path d)) ?_
  generalize Snapshot.ofEntry (d.inspect path) = loaded
  -- a loaded snapshot is logged; then the database, announced or complained of
  split
  · refine Yields.bind (Yields.log _ _ d) ?_
    split <;> rename_i heq <;> simp only [bind, Except.bind, Option.getD_some] at heq <;>
      simp only [heq]
    · exact Yields.ite_bind (Yields.say _ d) (Yields.pure _ d)
    · exact Yields.bind (Yields.complain _ d) (Yields.pure _ d)
  · rename_i hnot
    split <;> rename_i heq
    · cases loaded with
      | error e => cases heq
      | ok snap? =>
        cases snap? with
        | some snap => exact absurd rfl (hnot snap)
        | none =>
          cases heq
          exact Yields.ite_bind (Yields.say _ d) (Yields.pure _ d)
    · cases loaded with
      | error e => exact Yields.bind (Yields.complain _ d) (Yields.pure _ d)
      | ok snap? =>
        cases snap? with
        | some snap => exact absurd rfl (hnot snap)
        | none => cases heq

theorem loadHistory_yields (o : Options) (d : Directory) :
    ∃ h, Yields (loadHistory o) d h d := by
  unfold loadHistory
  have hinspect : (FileSystem.inspect o.historyPath : StateM Directory Entry).run d =
      (d.inspect o.historyPath, d) := rfl
  cases he : d.inspect o.historyPath with
  | file text =>
    rw [he] at hinspect
    rcases hh : History.ofText text with ⟨h, bad⟩
    refine ⟨h, Yields.bind (Yields.lift hinspect) ?_⟩
    simp only [hh]
    exact Yields.bind (Yields.forM fun _ _ => Yields.log _ _ d) (Yields.pure _ d)
  | _ =>
    rw [he] at hinspect
    exact ⟨.empty, Yields.bind (Yields.lift hinspect) (Yields.bind (Yields.log _ _ d) (Yields.pure _ d))⟩

theorem start_yields {o : Options} {path : String} (hpath : o.snapshotPath = some path)
    (d : Directory) : ∃ h, Yields (start o) d ⟨o, restoredDb (d.inspect path), "", h⟩ d := by
  obtain ⟨h, hh⟩ := loadHistory_yields o d
  exact ⟨h, Yields.bind (restore_yields hpath d)
    (Yields.bind hh (Yields.bind (Yields.say _ d) (Yields.pure _ d)))⟩

theorem saveSnapshot_yields {s : Session} {path : String} (hpath : s.options.snapshotPath = some path)
    (d : Directory) : Yields s.saveSnapshot d () (d.write path s.db.snapshot.toJson).1 := by
  unfold saveSnapshot
  simp only [hpath]
  refine Yields.bind (Yields.lift (Snapshot.save_run _ path d)) ?_
  split <;> exact Yields.log _ _ _

theorem command_yields (s : Session) (line : String) (d : Directory) :
    Yields (s.command line) d (!endsSession line) d := by
  unfold command endsSession
  generalize Text.words line = words
  cases words with
  | nil => exact Yields.pure _ d
  | cons cmd args =>
    simp only [List.head?_cons, Option.any_some]
    by_cases hq : cmd = ".quit" ∨ cmd = ".exit"
    · have hhelp : cmd ≠ ".help" := by rcases hq with rfl | rfl <;> decide
      have hends : (cmd == ".quit" || cmd == ".exit") = true := by
        rcases hq with rfl | rfl <;> decide
      rw [if_neg hhelp, if_pos hq, hends]
      exact Yields.pure _ d
    · have hends : (cmd == ".quit" || cmd == ".exit") = false := by simpa [not_or] using hq
      rw [hends]
      -- every other command prints something and goes on
      repeat' split
      all_goals first
        | exact Yields.bind (Yields.say _ d) (Yields.pure _ d)
        | exact Yields.bind (Yields.complain _ d) (Yields.pure _ d)

theorem execute_yields {s : Session} {path : String} (hpath : s.options.snapshotPath = some path)
    (sql : String) (d : Directory) :
    Yields (s.execute sql) d
      (match parse (Text.trim sql) with
        | .ok stmt => { s with db := (s.db.execute stmt).1 }
        | .error _ => s)
      (match parse (Text.trim sql) with
        | .ok stmt =>
          if ((s.db.execute stmt).2.isOk && stmt.isMutation) = true then
            (d.write path (s.db.execute stmt).1.snapshot.toJson).1
          else d
        | .error _ => d) := by
  unfold execute
  have htok : parseTokens ((lex (Text.trim sql)).filter fun t => t.kind ≠ .unknown) =
      parse (Text.trim sql) := rfl
  -- the tokens and the parsed statement are only printed
  refine Yields.bind (Yields.forM fun t _ => ?_)
    (Yields.bind (Yields.log _ _ d) (Yields.ite_bind (Yields.say _ d) ?_))
  · split
    · exact Yields.log _ _ d
    · exact Yields.pure _ d
  rw [htok]
  cases hp : parse (Text.trim sql) with
  | error e => exact Yields.bind (Yields.complain _ d) (Yields.pure _ d)
  | ok stmt =>
    refine Yields.bind (Yields.log _ _ d) (Yields.ite_bind (Yields.say _ d) ?_)
    rcases hex : s.db.execute stmt with ⟨db, result⟩
    simp only [hex]
    cases result with
    | error e => exact Yields.bind (Yields.complain _ d) (Yields.pure _ d)
    | ok r =>
      refine Yields.bind (Yields.log _ _ d) (Yields.bind (Yields.say _ d) ?_)
      by_cases hm : stmt.isMutation = true
      · simp only [hm, Except.isOk, Except.toBool, Bool.and_true, if_true]
        exact Yields.bind (saveSnapshot_yields (s := { s with db }) hpath d) (Yields.pure _ _)
      · simp only [hm, Bool.and_false, Bool.false_eq_true, if_false]
        exact Yields.pure _ d

end Session

end Shell

end TinySql
