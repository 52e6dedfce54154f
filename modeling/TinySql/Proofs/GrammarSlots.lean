import TinySql.Proofs.Parsing

/-!
The places of the grammar between two tokens, as a finite automaton over token kinds. A slot
lists the kinds that may come next and the slot each one leads to; a token of any other kind is
where the parser stops, with the message of the slot (`Slot.message`), or with an error of its
own before a statement and at a column's type (`Slot.failure`).

Walking the kinds of a token list through the slots (`Slot.walk`) says how far the list stays a
prefix of a sentence: every sentence walks from `start` to `done`, and every slot can still be
walked to `done`. Running a token list through the slots (`Slot.run`) also reads the text of a
VARCHAR length, the one token text that the parser checks.
-/

namespace TinySql.Sql

/-- A place in the grammar between two tokens. -/
inductive Slot
  | start         -- before a statement
  | createTable   -- after CREATE
  | createName    -- after CREATE TABLE
  | createOpen    -- after the table name of a CREATE
  | columnName    -- before a column definition
  | columnType    -- after a column's name
  | lengthOpen    -- after VARCHAR
  | length        -- after VARCHAR (
  | lengthClose   -- after the length
  | columnEnd     -- after a column definition
  | insertInto    -- after INSERT
  | insertName    -- after INSERT INTO
  | insertValues  -- after the table name of an INSERT
  | insertOpen    -- after VALUES
  | value         -- before a value of an INSERT
  | valueEnd      -- after a value of an INSERT
  | selectList    -- after SELECT
  | selectName    -- after a comma of the select list
  | selectNext    -- after a selected name
  | selectFrom    -- after SELECT *
  | selectTable   -- after FROM
  | selectFilter  -- after the table name of a SELECT
  | updateName    -- after UPDATE
  | updateSet     -- after the table name of an UPDATE
  | assignColumn  -- before an assignment
  | assignEquals  -- after the column of an assignment
  | assignValue   -- after the `=` of an assignment
  | assignEnd     -- after an assignment
  | whereColumn   -- after WHERE
  | whereOp       -- after the column of a WHERE
  | whereValue    -- after the comparison operator
  | statementEnd  -- before the closing `;`
  | done          -- after the closing `;`
  deriving DecidableEq, Repr

namespace Slot

/-- The kinds that may come next, each with the slot it leads to. -/
def edges : Slot → List (TokenKind × Slot)
  | start => [(.create, createTable), (.insert, insertInto), (.select, selectList),
      (.update, updateName)]
  | createTable => [(.table, createName)]
  | createName => [(.identifier, createOpen)]
  | createOpen => [(.leftParen, columnName)]
  | columnName => [(.identifier, columnType)]
  | columnType => [(.int, columnEnd), (.varchar, lengthOpen)]
  | lengthOpen => [(.leftParen, length)]
  | length => [(.number, lengthClose)]
  | lengthClose => [(.rightParen, columnEnd)]
  | columnEnd => [(.comma, columnName), (.rightParen, statementEnd)]
  | insertInto => [(.into, insertName)]
  | insertName => [(.identifier, insertValues)]
  | insertValues => [(.values, insertOpen)]
  | insertOpen => [(.leftParen, value)]
  | value => [(.string, valueEnd), (.number, valueEnd)]
  | valueEnd => [(.comma, value), (.rightParen, statementEnd)]
  | selectList => [(.asterisk, selectFrom), (.identifier, selectNext)]
  | selectName => [(.identifier, selectNext)]
  | selectNext => [(.comma, selectName), (.«from», selectTable)]
  | selectFrom => [(.«from», selectTable)]
  | selectTable => [(.identifier, selectFilter)]
  | selectFilter => [(.«where», whereColumn), (.semicolon, done)]
  | updateName => [(.identifier, updateSet)]
  | updateSet => [(.set, assignColumn)]
  | assignColumn => [(.identifier, assignEquals)]
  | assignEquals => [(.equals, assignValue)]
  | assignValue => [(.string, assignEnd), (.number, assignEnd)]
  | assignEnd => [(.comma, assignColumn), (.«where», whereColumn), (.semicolon, done)]
  | whereColumn => [(.identifier, whereOp)]
  | whereOp => [(.equals, whereValue), (.notEquals, whereValue), (.greaterThan, whereValue),
      (.lessThan, whereValue), (.greaterEqual, whereValue), (.lessEqual, whereValue)]
  | whereValue => [(.string, statementEnd), (.number, statementEnd)]
  | statementEnd => [(.semicolon, done)]
  | done => []

/-- The slot a token of kind `k` leads to, if the slot takes that kind. -/
def next (q : Slot) (k : TokenKind) : Option Slot := q.edges.lookup k

/-- What the parser says it expected when the token at a slot is of no kind the slot takes.
Before a statement and at a type it reports the token alone (`failure`), and after the `;` it
reads nothing more. -/
def message : Slot → String
  | createTable => "expected TABLE"
  | createName | insertName | selectTable | updateName => "expected table name"
  | createOpen | insertOpen => "expected '('"
  | columnName | assignColumn => "expected column name"
  | lengthOpen => "expected '(' after VARCHAR"
  | length => "expected VARCHAR length"
  | lengthClose => "expected ')'"
  | columnEnd | valueEnd => "expected ',' or ')'"
  | insertInto => "expected INTO"
  | insertValues => "expected VALUES"
  | value | assignValue | whereValue => "expected string or number literal"
  | selectList | selectName => "expected column name or '*'"
  | selectNext | selectFrom => "expected FROM"
  | selectFilter | assignEnd | statementEnd => "expected ';'"
  | updateSet => "expected SET"
  | assignEquals => "expected '='"
  | whereColumn => "expected column name in WHERE clause"
  | whereOp => "expected comparison operator in WHERE clause"
  | start | columnType | done => ""

/-- The error at a slot on a token it does not take. -/
def failure (q : Slot) (t : Token) : Error :=
  if q = start then .unknownStatement t.describe
  else if q = columnType then .unknownDataType t.describe
  else .unexpectedToken q.message t.describe

/-- Where a list of kinds leads from a slot, if every kind is taken on the way. -/
def walk : Slot → List TokenKind → Option Slot
  | q, [] => some q
  | q, k :: ks => (q.next k).bind fun q' => q'.walk ks

/-- The check of a token's text at a slot: a VARCHAR length must read as a 64-bit number
above zero, and no other text is checked. -/
def check (q : Slot) (t : Token) : Except Error Unit :=
  if q = length then (varcharLength t).map fun _ => () else .ok ()

/-- A token list run through the slots, as the parser reads it: from `done` nothing more is
read, and an empty list reads as an end of input. -/
def run : Slot → List Token → Except Error Unit
  | done, _ => .ok ()
  | q, [] => .error (q.failure (Token.eof 0))
  | q, t :: ts =>
    match q.next t.kind with
    | some q' => (q.check t).bind fun _ => q'.run ts
    | none => .error (q.failure t)

/-- The first token of a walk from `q` that stands where a VARCHAR length goes and does not
read as one. -/
def badLength : Slot → List Token → Option Token
  | _, [] => none
  | q, t :: ts =>
    match q.next t.kind with
    | some q' =>
      if q = length ∧ (varcharLength t).toOption = none then some t else q'.badLength ts
    | none => none

/-- A shortest way from each slot to the end of a statement. -/
def fill : Slot → List TokenKind
  | start => [.select, .asterisk, .«from», .identifier, .semicolon]
  | createTable => [.table, .identifier, .leftParen, .identifier, .int, .rightParen, .semicolon]
  | createName => [.identifier, .leftParen, .identifier, .int, .rightParen, .semicolon]
  | createOpen => [.leftParen, .identifier, .int, .rightParen, .semicolon]
  | columnName => [.identifier, .int, .rightParen, .semicolon]
  | columnType => [.int, .rightParen, .semicolon]
  | lengthOpen => [.leftParen, .number, .rightParen, .rightParen, .semicolon]
  | length => [.number, .rightParen, .rightParen, .semicolon]
  | lengthClose => [.rightParen, .rightParen, .semicolon]
  | columnEnd | valueEnd => [.rightParen, .semicolon]
  | insertInto => [.into, .identifier, .values, .leftParen, .number, .rightParen, .semicolon]
  | insertName => [.identifier, .values, .leftParen, .number, .rightParen, .semicolon]
  | insertValues => [.values, .leftParen, .number, .rightParen, .semicolon]
  | insertOpen => [.leftParen, .number, .rightParen, .semicolon]
  | value => [.number, .rightParen, .semicolon]
  | selectList => [.asterisk, .«from», .identifier, .semicolon]
  | selectName => [.identifier, .«from», .identifier, .semicolon]
  | selectNext | selectFrom => [.«from», .identifier, .semicolon]
  | selectTable => [.identifier, .semicolon]
  | updateName => [.identifier, .set, .identifier, .equals, .number, .semicolon]
  | updateSet => [.set, .identifier, .equals, .number, .semicolon]
  | assignColumn | whereColumn => [.identifier, .equals, .number, .semicolon]
  | assignEquals | whereOp => [.equals, .number, .semicolon]
  | assignValue | whereValue => [.number, .semicolon]
  | selectFilter | assignEnd | statementEnd => [.semicolon]
  | done => []

/-- The slot after a select list: FROM follows either way, and after names a comma may too. -/
def afterProjection : Projection → Slot
  | .all => selectFrom
  | .columns _ => selectNext

/-- The slot after an optional WHERE read at `q`: the `;` after a WHERE, and `q` itself when
there is none. -/
def afterFilter (q : Slot) : Option Comparison → Slot
  | some _ => statementEnd
  | none => q

/-! ## The edges -/

theorem mem_edges_of_next {q q' : Slot} {k : TokenKind} (h : q.next k = some q') :
    (k, q') ∈ q.edges := by
  obtain ⟨l₁, l₂, hl, -⟩ := List.lookup_eq_some_iff.1 h
  simp [hl]

theorem next_eq_none {q : Slot} {k : TokenKind} : q.next k = none ↔ ∀ e ∈ q.edges, e.1 ≠ k := by
  simp only [next, List.lookup_eq_none_iff, bne_iff_ne, ne_eq]
  exact forall₂_congr fun e _ => ne_comm

@[simp] theorem next_eof (q : Slot) : q.next .eof = none := by
  cases q <;> rfl

@[simp] theorem next_done (k : TokenKind) : done.next k = none := rfl

theorem next_ne_start (q : Slot) (k : TokenKind) : q.next k ≠ some start := by
  intro h
  have hmem := mem_edges_of_next h
  cases q <;> simp [edges] at hmem

theorem next_int_isSome (q : Slot) : (q.next .int).isSome ↔ q = columnType := by
  cases q <;> decide

theorem next_whereOp (k : TokenKind) : whereOp.next k = (compareOp? k).map fun _ => whereValue := by
  cases k <;> rfl

theorem failure_start (t : Token) : start.failure t = .unknownStatement t.describe := rfl

theorem failure_columnType (t : Token) : columnType.failure t = .unknownDataType t.describe := rfl

theorem failure_of_ne {q : Slot} (h₁ : q ≠ start) (h₂ : q ≠ columnType) (t : Token) :
    q.failure t = .unexpectedToken q.message t.describe := by
  simp [failure, h₁, h₂]

theorem check_of_ne {q : Slot} (h : q ≠ length) (t : Token) : q.check t = .ok () := by
  simp [check, h]

/-! ## Walks -/

@[simp] theorem walk_nil (q : Slot) : q.walk [] = some q := rfl

@[simp] theorem walk_cons (q : Slot) (k : TokenKind) (ks : List TokenKind) :
    q.walk (k :: ks) = (q.next k).bind fun q' => q'.walk ks := rfl

theorem walk_append (q : Slot) (a b : List TokenKind) :
    q.walk (a ++ b) = (q.walk a).bind fun q' => q'.walk b := by
  induction a generalizing q with
  | nil => rfl
  | cons k a ih => simp only [List.cons_append, walk_cons, ih, Option.bind_assoc]

theorem walk_append_of {q r : Slot} {a : List TokenKind} (h : q.walk a = some r)
    (b : List TokenKind) : q.walk (a ++ b) = r.walk b := by
  simp [walk_append, h]

theorem walk_done {ks : List TokenKind} {q : Slot} (h : done.walk ks = some q) :
    ks = [] ∧ q = done := by
  cases ks with
  | nil => exact ⟨rfl, (Option.some.inj h).symm⟩
  | cons k ks => simp at h

theorem eq_of_walk_done {q : Slot} {a b : List TokenKind} (ha : q.walk a = some done)
    (hab : q.walk (a ++ b) = some done) : b = [] := by
  rw [walk_append_of ha] at hab
  exact (walk_done hab).1

theorem eq_nil_of_walk_start {ks : List TokenKind} (h : start.walk ks = some start) : ks = [] := by
  -- any step leaves the start for good, since no edge leads back to it
  have never : ∀ (ks : List TokenKind) (q : Slot), q.walk ks = some start → q = start ∧ ks = [] := by
    intro ks
    induction ks with
    | nil => intro q h; exact ⟨(Option.some.inj h), rfl⟩
    | cons k ks ih =>
      intro q h
      rw [walk_cons] at h
      obtain ⟨q', hq', hwalk⟩ := Option.bind_eq_some_iff.1 h
      exact absurd ((ih q' hwalk).1 ▸ hq') (next_ne_start q k)
  exact (never ks start h).2

theorem walk_fill (q : Slot) : q.walk q.fill = some done := by
  cases q <;> rfl

/-! ## Every sentence walks from the start to the end -/

open Grammar

theorem walk_typeSpelling {ws : List Lexeme} {d : DataType} (h : TypeSpelling ws d) :
    columnType.walk (ws.map Prod.fst) = some columnEnd := by
  cases h <;> rfl

theorem walk_columnSpelling {ws : List Lexeme} {c : Column} (h : ColumnSpelling ws c) :
    columnName.walk (ws.map Prod.fst) = some columnEnd := by
  cases h with
  | mk x type => exact walk_typeSpelling type

theorem walk_nameSpelling {ws : List Lexeme} {x : String} (h : NameSpelling ws x) {q : Slot}
    (hq : q.next .identifier = some selectNext) : q.walk (ws.map Prod.fst) = some selectNext := by
  cases h
  simp [hq]

theorem walk_literalSpelling {ws : List Lexeme} {x : String} (h : LiteralSpelling ws x)
    {q q' : Slot} (hs : q.next .string = some q') (hn : q.next .number = some q') :
    q.walk (ws.map Prod.fst) = some q' := by
  cases h <;> simp [hs, hn]

theorem walk_assignmentSpelling {ws : List Lexeme} {a : Assignment} (h : AssignmentSpelling ws a) :
    assignColumn.walk (ws.map Prod.fst) = some assignEnd := by
  cases h with
  | mk c e value => exact walk_literalSpelling value (q := assignValue) rfl rfl

theorem walk_listSpelling {α : Type} {item : List Lexeme → α → Prop} {qi qe : Slot}
    (hitem : ∀ ws a, item ws a → qi.walk (ws.map Prod.fst) = some qe)
    (hcomma : qe.next .comma = some qi) {ws : List Lexeme} {as : List α}
    (h : ListSpelling item ws as) {q : Slot}
    (hfirst : ∀ ws a, item ws a → q.walk (ws.map Prod.fst) = some qe) :
    q.walk (ws.map Prod.fst) = some qe := by
  induction h generalizing q with
  | one first => exact hfirst _ _ first
  | cons c first tail ih =>
    rw [List.map_append, walk_append_of (hfirst _ _ first), List.map_cons, walk_cons, hcomma]
    exact ih hitem

theorem walk_filterSpelling {ws : List Lexeme} {c : Option Comparison} (h : FilterSpelling ws c)
    {q : Slot} (hq : q.next .«where» = some whereColumn) :
    q.walk (ws.map Prod.fst) = some (q.afterFilter c) := by
  cases h with
  | none => rfl
  | some w c o cmp value =>
    have hcolumn : whereColumn.next .identifier = some whereOp := rfl
    simp only [List.map_cons, walk_cons, hq, hcolumn, Option.bind_some, next_whereOp, cmp,
      Option.map_some]
    exact walk_literalSpelling value (q := whereValue) rfl rfl

theorem walk_projectionSpelling {ws : List Lexeme} {p : Projection} (h : ProjectionSpelling ws p) :
    selectList.walk (ws.map Prod.fst) = some (afterProjection p) := by
  cases h with
  | all a => rfl
  | columns list =>
    have hname : ∀ ws x, NameSpelling ws x → selectName.walk (ws.map Prod.fst) = some selectNext :=
      fun _ _ h => walk_nameSpelling h rfl
    exact walk_listSpelling hname rfl list fun _ _ h => walk_nameSpelling h rfl

theorem walk_afterFilter_semicolon {q : Slot} (hq : q.next .semicolon = some done)
    (c : Option Comparison) : (q.afterFilter c).walk [.semicolon] = some done := by
  cases c with
  | none => simp [afterFilter, hq]
  | some c => rfl

theorem walk_sentence {ls : List Lexeme} {s : Statement} (h : Sentence ls s) :
    start.walk (ls.map Prod.fst) = some done := by
  cases h with
  | createTable k₁ k₂ x p₁ p₂ p₃ columns =>
    have hcols := walk_listSpelling (fun _ _ h => walk_columnSpelling h) rfl columns
      fun _ _ h => walk_columnSpelling h
    simp only [List.map_append, List.append_assoc]
    rw [walk_append_of (r := columnName) rfl, walk_append_of hcols]
    rfl
  | insert k₁ k₂ x k₃ p₁ p₂ p₃ values =>
    have hvals := walk_listSpelling (fun _ _ h => walk_literalSpelling h (q := value) rfl rfl) rfl
      values fun _ _ h => walk_literalSpelling h (q := value) rfl rfl
    simp only [List.map_append, List.append_assoc]
    rw [walk_append_of (r := value) rfl, walk_append_of hvals]
    rfl
  | select k₁ k₂ x p projection filter =>
    have hproj := walk_projectionSpelling projection
    simp only [List.map_append, List.append_assoc, List.map_cons, List.map_nil]
    rw [walk_append_of (r := selectList) rfl, walk_append_of hproj]
    have hfrom : ∀ p, (afterProjection p).walk [.«from», .identifier] = some selectFilter := by
      intro p
      cases p <;> rfl
    rw [walk_append_of (hfrom _),
      walk_append_of (walk_filterSpelling filter rfl)]
    exact walk_afterFilter_semicolon rfl _
  | update k₁ x k₂ p assignments filter =>
    have has := walk_listSpelling (fun _ _ h => walk_assignmentSpelling h) rfl assignments
      fun _ _ h => walk_assignmentSpelling h
    simp only [List.map_append, List.append_assoc]
    rw [walk_append_of (r := assignColumn) rfl, walk_append_of has,
      walk_append_of (walk_filterSpelling filter rfl)]
    exact walk_afterFilter_semicolon rfl _

/-! ## Runs over tokens -/

theorem varcharLength_eq_error {t : Token} {e : Error} (h : varcharLength t = .error e) :
    e = .invalidLength t.text := by
  unfold varcharLength at h
  split at h
  · split at h
    · cases h
      rfl
    · cases h
  · cases h
    rfl

theorem run_eq {q : Slot} (hq : q ≠ done) (ts : List Token) :
    q.run ts =
      match q.next (current ts).kind with
      | some r => (q.check (current ts)).bind fun _ => r.run (advance ts)
      | none => .error (q.failure (current ts)) := by
  cases ts with
  | nil =>
    have hkind : (current []).kind = .eof := rfl
    rw [run.eq_2 q hq, hkind, next_eof]
    rfl
  | cons t ts =>
    rw [run.eq_3 q t ts hq, current_cons]
    by_cases ht : t.kind = .eof
    · rw [ht, next_eof]
    · rw [advance_cons ht]

theorem run_step {q r : Slot} {ts : List Token} (hk : q.next (current ts).kind = some r)
    (hq : q ≠ length) : q.run ts = r.run (advance ts) := by
  have hdone : q ≠ done := by
    rintro rfl
    simp at hk
  rw [run_eq hdone, hk, check_of_ne hq]
  rfl

theorem run_stop {q : Slot} {ts : List Token} (hq : q ≠ done)
    (hk : q.next (current ts).kind = none) : q.run ts = .error (q.failure (current ts)) := by
  rw [run_eq hq, hk]

theorem run_append_cons {q r : Slot} {pre : List Token} {t : Token} (post : List Token)
    (hpre : q.walk (pre.map Token.kind) = some r) (ht : r.next t.kind = none) :
    q.run (pre ++ t :: post) =
      match q.badLength pre with
      | some u => .error (.invalidLength u.text)
      | none => if r = done then .ok () else .error (r.failure t) := by
  induction pre generalizing q with
  | nil =>
    obtain rfl : q = r := Option.some.inj hpre
    by_cases hr : q = done
    · subst hr
      rfl
    · rw [List.nil_append, run.eq_3 q t post hr, ht]
      simp [badLength, hr]
  | cons u pre ih =>
    obtain ⟨q', hq', hwalk⟩ := Option.bind_eq_some_iff.1 hpre
    have hq : q ≠ done := by
      rintro rfl
      simp at hq'
    rw [List.cons_append, run.eq_3 q u _ hq, hq', badLength.eq_2, hq']
    dsimp only
    by_cases hlen : q = length
    · subst hlen
      -- the length's text is read before the walk goes on
      cases hv : varcharLength u with
      | error e =>
        rw [varcharLength_eq_error hv] at hv
        simp [check, hv, Except.map, Except.bind, Except.toOption]
      | ok n => simp [check, hv, Except.map, Except.bind, Except.toOption, ih hwalk]
    · simp [check_of_ne hlen, hlen, ih hwalk, Except.bind]

theorem exists_stuck (q : Slot) {ts : List Token} (h : ∃ t ∈ ts, t.kind = .eof) :
    ∃ pre t post r, ts = pre ++ t :: post ∧ q.walk (pre.map Token.kind) = some r ∧
      r.next t.kind = none := by
  induction ts generalizing q with
  | nil => simp at h
  | cons t ts ih =>
    cases hq : q.next t.kind with
    | none => exact ⟨[], t, ts, q, rfl, rfl, hq⟩
    | some q' =>
      have hne : t.kind ≠ .eof := by
        intro he
        rw [he, next_eof] at hq
        cases hq
      have hts : ∃ x ∈ ts, x.kind = .eof := by
        obtain ⟨x, hx, hxk⟩ := h
        rcases List.mem_cons.1 hx with rfl | hx
        · exact absurd hxk hne
        · exact ⟨x, hx, hxk⟩
      obtain ⟨pre, u, post, r, rfl, hwalk, hu⟩ := ih q' hts
      exact ⟨t :: pre, u, post, r, rfl, by simp [hq, hwalk], hu⟩

theorem badLength_eq_none {ts : List Token} (h : ∀ t ∈ ts, ∃ n, varcharLength t = .ok n)
    (q : Slot) : q.badLength ts = none := by
  induction ts generalizing q with
  | nil => rfl
  | cons t ts ih =>
    obtain ⟨n, hn⟩ := h t List.mem_cons_self
    rw [badLength.eq_2]
    cases q.next t.kind with
    | none => rfl
    | some q' =>
      simp [hn, Except.toOption, ih fun u hu => h u (List.mem_cons_of_mem t hu)]

end Slot

end TinySql.Sql
