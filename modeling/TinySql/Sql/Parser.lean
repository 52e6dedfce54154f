import TinySql.Sql.Lexer
import TinySql.Sql.Statement
import TinySql.Text.Integer
import TinySql.Error

/-!
The parser: recursive descent over a token list with one token of lookahead and no recovery,
so the first token that does not fit ends the parse with an error naming it. The list always
ends with an EOF and the cursor never moves past the first EOF, so tokens after it, and
tokens after the statement's `;`, are never read. Grammar:

    statement := CREATE TABLE id '(' id type (',' id type)* ')' ';'
               | INSERT INTO id VALUES '(' lit (',' lit)* ')' ';'
               | SELECT ('*' | id (',' id)*) FROM id [WHERE id cmp lit] ';'
               | UPDATE id SET id '=' lit (',' id '=' lit)* [WHERE id cmp lit] ';'
    type      := INT | VARCHAR '(' NUMBER ')'
    lit       := STRING | NUMBER

A VARCHAR length must read as an unsigned 64-bit number above zero.
-/

namespace TinySql.Sql

/-- The token under the cursor. A token list handed to the parser ends with an EOF that the
cursor never passes, so the empty case does not arise. -/
def current : List Token → Token
  | t :: _ => t
  | [] => Token.eof 0

/-- The tokens after the cursor moves one step; on an EOF it stays. -/
def advance : List Token → List Token
  | t :: rest => if t.kind = .eof then t :: rest else rest
  | [] => []

theorem length_advance_le (ts : List Token) : (advance ts).length ≤ ts.length := by
  unfold advance
  split
  · split <;> simp
  · simp

theorem length_advance_lt {ts : List Token} (h : (current ts).kind ≠ .eof) :
    (advance ts).length < ts.length := by
  match ts with
  | t :: rest =>
    simp only [current] at h
    simp [advance, h]
  | [] => simp [current, Token.eof] at h

/-- Whether a parse that succeeds leaves fewer tokens than it was given. -/
def Consumes (p : List Token → Except Error (α × List Token)) : Prop :=
  ∀ ts a rest, p ts = .ok (a, rest) → rest.length < ts.length

/-- Takes the current token when it has kind `k`; otherwise fails, naming the token. -/
def expect (k : TokenKind) (expected : String) (ts : List Token) : Except Error (Token × List Token) :=
  if (current ts).kind = k then .ok (current ts, advance ts)
  else .error (.unexpectedToken expected (current ts).describe)

theorem expect_consumes {k : TokenKind} (hk : k ≠ .eof) (expected : String) :
    Consumes (expect k expected) := by
  intro ts a rest h
  unfold expect at h
  split at h
  · rename_i hc
    cases h
    exact length_advance_lt (hc ▸ hk)
  · cases h

/-- The text of the current token when it is a name. -/
def name (expected : String) (ts : List Token) : Except Error (String × List Token) :=
  (expect .identifier expected ts).map fun (t, rest) => (t.text, rest)

theorem name_consumes (expected : String) : Consumes (name expected) := by
  intro ts a rest h
  unfold name at h
  cases he : expect .identifier expected ts with
  | error e => simp [he, Except.map] at h
  | ok p =>
    simp only [he, Except.map, Except.ok.injEq, Prod.mk.injEq] at h
    obtain ⟨-, rfl⟩ := h
    exact expect_consumes (by decide) expected ts p.1 p.2 he

/-- The text of a string or number literal. -/
def literal (ts : List Token) : Except Error (String × List Token) :=
  match (current ts).kind with
  | .string | .number => .ok ((current ts).text, advance ts)
  | _ => .error (.unexpectedToken "expected string or number literal" (current ts).describe)

theorem literal_consumes : Consumes literal := by
  intro ts a rest h
  unfold literal at h
  split at h
  all_goals first
    | (cases h; apply length_advance_lt; rename_i hk; rw [hk]; decide)
    | cases h

/-- `item (',' item)*`: one or more items separated by commas. -/
def commaList (item : List Token → Except Error (α × List Token)) (consumes : Consumes item) (ts : List Token) :
    Except Error (List α × List Token) :=
  match h : item ts with
  | .error e => .error e
  | .ok (a, rest) =>
    have : rest.length < ts.length := consumes ts a rest h
    if (current rest).kind = .comma then
      match commaList item consumes (advance rest) with
      | .ok (more, after) => .ok (a :: more, after)
      | .error e => .error e
    else .ok ([a], rest)
termination_by ts.length
decreasing_by
  have := length_advance_le rest
  omega

/-- The length of `VARCHAR(n)`: the token's text read as a 64-bit unsigned number above zero. -/
def varcharLength (t : Token) : Except Error UInt64 :=
  match Text.parseWord? t.text with
  | some n => if n = 0 then .error (.invalidLength t.text) else .ok n
  | none => .error (.invalidLength t.text)

/-- A column type: `INT`, or `VARCHAR(n)`. -/
def dataType (ts : List Token) : Except Error (DataType × List Token) :=
  match (current ts).kind with
  | .int => .ok (.int, advance ts)
  | .varchar => do
    let (_, ts) ← expect .leftParen "expected '(' after VARCHAR" (advance ts)
    let (len, ts) ← expect .number "expected VARCHAR length" ts
    let n ← varcharLength len
    let (_, ts) ← expect .rightParen "expected ')'" ts
    pure (.varchar n, ts)
  | _ => .error (.unknownDataType (current ts).describe)

def column (ts : List Token) : Except Error (Column × List Token) :=
  match name "expected column name" ts with
  | .error e => .error e
  | .ok (n, rest) => (dataType rest).map fun (type, after) => (⟨n, type⟩, after)

theorem expect_length_le {k : TokenKind} {expected : String} {ts : List Token} {t : Token}
    {rest : List Token} (h : expect k expected ts = .ok (t, rest)) : rest.length ≤ ts.length := by
  unfold expect at h
  split at h
  · cases h
    exact length_advance_le ts
  · cases h

theorem dataType_length_le {ts : List Token} {d : DataType} {rest : List Token}
    (h : dataType ts = .ok (d, rest)) : rest.length ≤ ts.length := by
  unfold dataType at h
  split at h
  · cases h
    exact length_advance_le ts
  · cases h1 : expect .leftParen "expected '(' after VARCHAR" (advance ts) with
    | error e => simp [h1, bind, Except.bind] at h
    | ok p1 =>
      cases h2 : expect .number "expected VARCHAR length" p1.2 with
      | error e => simp [h1, h2, bind, Except.bind] at h
      | ok p2 =>
        cases hn : varcharLength p2.1 with
        | error e => simp [h1, h2, hn, bind, Except.bind] at h
        | ok n =>
          cases h3 : expect .rightParen "expected ')'" p2.2 with
          | error e => simp [h1, h2, hn, h3, bind, Except.bind] at h
          | ok p3 =>
            simp only [h1, h2, hn, h3, bind, Except.bind, pure, Except.pure, Except.ok.injEq,
              Prod.mk.injEq] at h
            obtain ⟨-, rfl⟩ := h
            have := expect_length_le h1
            have := expect_length_le h2
            have := expect_length_le h3
            have := length_advance_le ts
            omega
  · cases h

theorem column_consumes : Consumes column := by
  intro ts a rest h
  unfold column at h
  cases hn : name "expected column name" ts with
  | error e => simp [hn] at h
  | ok p =>
    simp only [hn] at h
    cases hd : dataType p.2 with
    | error e => simp [hd, Except.map] at h
    | ok q =>
      simp only [hd, Except.map, Except.ok.injEq, Prod.mk.injEq] at h
      obtain ⟨-, rfl⟩ := h
      have := name_consumes _ ts p.1 p.2 hn
      have := dataType_length_le hd
      omega

/-- `column = literal` in a SET clause. -/
def assignment (ts : List Token) : Except Error (Assignment × List Token) := do
  let (column, ts) ← name "expected column name" ts
  let (_, ts) ← expect .equals "expected '='" ts
  let (value, ts) ← literal ts
  pure (⟨column, value⟩, ts)

theorem assignment_consumes : Consumes assignment := by
  intro ts a rest h
  unfold assignment at h
  cases h1 : name "expected column name" ts with
  | error e => simp [h1, bind, Except.bind] at h
  | ok p1 =>
    cases h2 : expect .equals "expected '='" p1.2 with
    | error e => simp [h1, h2, bind, Except.bind] at h
    | ok p2 =>
      cases h3 : literal p2.2 with
      | error e => simp [h1, h2, h3, bind, Except.bind] at h
      | ok p3 =>
        simp only [h1, h2, h3, bind, Except.bind, pure, Except.pure, Except.ok.injEq,
          Prod.mk.injEq] at h
        obtain ⟨-, rfl⟩ := h
        have := name_consumes _ ts p1.1 p1.2 h1
        have := expect_length_le h2
        have := literal_consumes p2.2 p3.1 p3.2 h3
        omega

/-- The comparison operator under the cursor. -/
def compareOp? : TokenKind → Option CompareOp
  | .equals => some .eq
  | .notEquals => some .ne
  | .greaterThan => some .gt
  | .lessThan => some .lt
  | .greaterEqual => some .ge
  | .lessEqual => some .le
  | _ => none

/-- An optional `WHERE column op literal`. -/
def filter (ts : List Token) : Except Error (Option Comparison × List Token) :=
  if (current ts).kind = .«where» then do
    let (column, ts) ← name "expected column name in WHERE clause" (advance ts)
    match compareOp? (current ts).kind with
    | some op =>
      let (lit, ts) ← literal (advance ts)
      pure (some ⟨column, op, lit⟩, ts)
    | none =>
      throw (.unexpectedToken "expected comparison operator in WHERE clause" (current ts).describe)
  else .ok (none, ts)

/-- `CREATE TABLE name (column, …);` -/
def createTable (ts : List Token) : Except Error (Statement × List Token) := do
  let (_, ts) ← expect .create "expected CREATE" ts
  let (_, ts) ← expect .table "expected TABLE" ts
  let (table, ts) ← name "expected table name" ts
  let (_, ts) ← expect .leftParen "expected '('" ts
  let (columns, ts) ← commaList column column_consumes ts
  let (_, ts) ← expect .rightParen "expected ',' or ')'" ts
  let (_, ts) ← expect .semicolon "expected ';'" ts
  pure (.createTable table columns, ts)

/-- `INSERT INTO name VALUES (literal, …);` -/
def insert (ts : List Token) : Except Error (Statement × List Token) := do
  let (_, ts) ← expect .insert "expected INSERT" ts
  let (_, ts) ← expect .into "expected INTO" ts
  let (table, ts) ← name "expected table name" ts
  let (_, ts) ← expect .values "expected VALUES" ts
  let (_, ts) ← expect .leftParen "expected '('" ts
  let (values, ts) ← commaList literal literal_consumes ts
  let (_, ts) ← expect .rightParen "expected ',' or ')'" ts
  let (_, ts) ← expect .semicolon "expected ';'" ts
  pure (.insert table values, ts)

/-- The select list: `*`, or names separated by commas. -/
def projection (ts : List Token) : Except Error (Projection × List Token) :=
  if (current ts).kind = .asterisk then .ok (.all, advance ts)
  else
    (commaList (name "expected column name or '*'") (name_consumes _) ts).map
      fun (names, rest) => (.columns names, rest)

/-- `SELECT projection FROM name [WHERE …];` -/
def select (ts : List Token) : Except Error (Statement × List Token) := do
  let (_, ts) ← expect .select "expected SELECT" ts
  let (proj, ts) ← projection ts
  let (_, ts) ← expect .«from» "expected FROM" ts
  let (table, ts) ← name "expected table name" ts
  let (cond, ts) ← filter ts
  let (_, ts) ← expect .semicolon "expected ';'" ts
  pure (.select proj table cond, ts)

/-- `UPDATE name SET column = literal, … [WHERE …];` -/
def update (ts : List Token) : Except Error (Statement × List Token) := do
  let (_, ts) ← expect .update "expected UPDATE" ts
  let (table, ts) ← name "expected table name" ts
  let (_, ts) ← expect .set "expected SET" ts
  let (assignments, ts) ← commaList assignment assignment_consumes ts
  let (cond, ts) ← filter ts
  let (_, ts) ← expect .semicolon "expected ';'" ts
  pure (.update table assignments cond, ts)

/-- One statement from the front of a token list that ends with an EOF; the first token
decides which kind. -/
def statement (ts : List Token) : Except Error Statement :=
  let step := match (current ts).kind with
    | .create => createTable ts
    | .insert => insert ts
    | .select => select ts
    | .update => update ts
    | _ => .error (.unknownStatement (current ts).describe)
  step.map (·.1)

/-- A token list with an EOF added when it does not end with one, placed just after the last
token's text. -/
def withEnd (ts : List Token) : List Token :=
  match ts.getLast? with
  | some t => if t.kind = .eof then ts else ts ++ [Token.eof (t.pos + t.text.length)]
  | none => [Token.eof 0]

/-- Parses one statement from a list of tokens. -/
def parseTokens (ts : List Token) : Except Error Statement := statement (withEnd ts)

/-- Parses one statement from a text: its tokens without the UNKNOWN ones, then the statement. -/
def parse (s : String) : Except Error Statement := parseTokens (tokenize s)

end TinySql.Sql
