import TinySql.Sql.Parser

/-!
The grammar of the SQL dialect, stated apart from the parser as relations between token
sequences and the values they spell. A token is seen here as its kind and its text only, so
nothing below depends on where a token stood. Keywords and punctuation may carry any text;
names and literals stand for their text as written, and a VARCHAR length for the number its
text reads as, which must be above zero.

    statement := CREATE TABLE id '(' id type (',' id type)* ')' ';'
               | INSERT INTO id VALUES '(' lit (',' lit)* ')' ';'
               | SELECT ('*' | id (',' id)*) FROM id [WHERE id cmp lit] ';'
               | UPDATE id SET id '=' lit (',' id '=' lit)* [WHERE id cmp lit] ';'
    type      := INT | VARCHAR '(' NUMBER ')'
    lit       := STRING | NUMBER
    cmp       := '=' | '<>' | '>' | '<' | '>=' | '<='
-/

namespace TinySql.Sql

/-- A token without its position: its kind and its text. -/
abbrev Lexeme := TokenKind × String

/-- The kind and text of a token. -/
def Token.lexeme (t : Token) : Lexeme := (t.kind, t.text)

namespace Grammar

/-- `type := INT | VARCHAR '(' NUMBER ')'`. -/
inductive TypeSpelling : List Lexeme → DataType → Prop
  | int (w : String) : TypeSpelling [(.int, w)] .int
  | varchar (w l d r : String) {n : UInt64} (length : Text.parseWord? d = some n) (positive : n ≠ 0) :
      TypeSpelling [(.varchar, w), (.leftParen, l), (.number, d), (.rightParen, r)] (.varchar n)

/-- `id type`. -/
inductive ColumnSpelling : List Lexeme → Column → Prop
  | mk (x : String) {ws : List Lexeme} {d : DataType} (type : TypeSpelling ws d) :
      ColumnSpelling ((.identifier, x) :: ws) ⟨x, d⟩

/-- `id`, standing for its text. -/
inductive NameSpelling : List Lexeme → String → Prop
  | mk (x : String) : NameSpelling [(.identifier, x)] x

/-- `lit := STRING | NUMBER`, standing for its text. -/
inductive LiteralSpelling : List Lexeme → String → Prop
  | string (x : String) : LiteralSpelling [(.string, x)] x
  | number (x : String) : LiteralSpelling [(.number, x)] x

/-- `id '=' lit`. -/
inductive AssignmentSpelling : List Lexeme → Assignment → Prop
  | mk (c e : String) {ws : List Lexeme} {v : String} (value : LiteralSpelling ws v) :
      AssignmentSpelling ((.identifier, c) :: (.equals, e) :: ws) ⟨c, v⟩

/-- `item (',' item)*`: one or more items separated by commas. -/
inductive ListSpelling {α : Type} (item : List Lexeme → α → Prop) : List Lexeme → List α → Prop
  | one {ws : List Lexeme} {a : α} (first : item ws a) : ListSpelling item ws [a]
  | cons {ws rest : List Lexeme} {a : α} {as : List α} (c : String) (first : item ws a)
      (tail : ListSpelling item rest as) : ListSpelling item (ws ++ (.comma, c) :: rest) (a :: as)

/-- `[WHERE id cmp lit]`. -/
inductive FilterSpelling : List Lexeme → Option Comparison → Prop
  | none : FilterSpelling [] none
  | some (w c o : String) {k : TokenKind} {op : CompareOp} (cmp : compareOp? k = some op)
      {ws : List Lexeme} {v : String} (value : LiteralSpelling ws v) :
      FilterSpelling ((.where, w) :: (.identifier, c) :: (k, o) :: ws) (some ⟨c, op, v⟩)

/-- `'*' | id (',' id)*`. -/
inductive ProjectionSpelling : List Lexeme → Projection → Prop
  | all (a : String) : ProjectionSpelling [(.asterisk, a)] .all
  | columns {ws : List Lexeme} {names : List String} (list : ListSpelling NameSpelling ws names) :
      ProjectionSpelling ws (.columns names)

/-- `statement`: the token sequences that spell each statement. -/
inductive Sentence : List Lexeme → Statement → Prop
  | createTable (k₁ k₂ x p₁ p₂ p₃ : String) {ws : List Lexeme} {cols : List Column}
      (columns : ListSpelling ColumnSpelling ws cols) :
      Sentence ([(.create, k₁), (.table, k₂), (.identifier, x), (.leftParen, p₁)] ++ ws ++
        [(.rightParen, p₂), (.semicolon, p₃)]) (.createTable x cols)
  | insert (k₁ k₂ x k₃ p₁ p₂ p₃ : String) {ws : List Lexeme} {vals : List String}
      (values : ListSpelling LiteralSpelling ws vals) :
      Sentence ([(.insert, k₁), (.into, k₂), (.identifier, x), (.values, k₃), (.leftParen, p₁)] ++
        ws ++ [(.rightParen, p₂), (.semicolon, p₃)]) (.insert x vals)
  | select (k₁ k₂ x p : String) {ws₁ ws₂ : List Lexeme} {proj : Projection}
      {cond : Option Comparison} (projection : ProjectionSpelling ws₁ proj)
      (filter : FilterSpelling ws₂ cond) :
      Sentence ([(.select, k₁)] ++ ws₁ ++ [(.«from», k₂), (.identifier, x)] ++ ws₂ ++
        [(.semicolon, p)]) (.select proj x cond)
  | update (k₁ x k₂ p : String) {ws₁ ws₂ : List Lexeme} {as : List Assignment}
      {cond : Option Comparison} (assignments : ListSpelling AssignmentSpelling ws₁ as)
      (filter : FilterSpelling ws₂ cond) :
      Sentence ([(.update, k₁), (.identifier, x), (.set, k₂)] ++ ws₁ ++ ws₂ ++ [(.semicolon, p)])
        (.update x as cond)

/-! ## No spelling holds an end of input -/

/-- No lexeme of the list is an end of input. -/
def NoEnd (ls : List Lexeme) : Prop := ∀ l ∈ ls, l.1 ≠ .eof

@[simp] theorem noEnd_nil : NoEnd [] := by simp [NoEnd]

@[simp] theorem noEnd_cons {l : Lexeme} {ls : List Lexeme} :
    NoEnd (l :: ls) ↔ l.1 ≠ .eof ∧ NoEnd ls := by
  simp [NoEnd]

@[simp] theorem noEnd_append {ls ls' : List Lexeme} : NoEnd (ls ++ ls') ↔ NoEnd ls ∧ NoEnd ls' := by
  simp only [NoEnd, List.mem_append]
  constructor
  · intro h
    exact ⟨fun l hl => h l (.inl hl), fun l hl => h l (.inr hl)⟩
  · rintro ⟨h, h'⟩ l (hl | hl)
    · exact h l hl
    · exact h' l hl

theorem compareOp?_ne_eof {k : TokenKind} {op : CompareOp} (h : compareOp? k = some op) :
    k ≠ .eof := by
  rintro rfl
  simp [compareOp?] at h

theorem TypeSpelling.noEnd {ws : List Lexeme} {d : DataType} (h : TypeSpelling ws d) : NoEnd ws := by
  cases h <;> simp

theorem NameSpelling.noEnd {ws : List Lexeme} {x : String} (h : NameSpelling ws x) : NoEnd ws := by
  cases h
  simp

theorem LiteralSpelling.noEnd {ws : List Lexeme} {x : String} (h : LiteralSpelling ws x) :
    NoEnd ws := by
  cases h <;> simp

theorem ColumnSpelling.noEnd {ws : List Lexeme} {c : Column} (h : ColumnSpelling ws c) :
    NoEnd ws := by
  cases h with
  | mk x type => simp [type.noEnd]

theorem AssignmentSpelling.noEnd {ws : List Lexeme} {a : Assignment} (h : AssignmentSpelling ws a) :
    NoEnd ws := by
  cases h with
  | mk c e value => simp [value.noEnd]

theorem ListSpelling.noEnd {α : Type} {item : List Lexeme → α → Prop}
    (hitem : ∀ ws a, item ws a → NoEnd ws) {ws : List Lexeme} {as : List α}
    (h : ListSpelling item ws as) : NoEnd ws := by
  induction h with
  | one first => exact hitem _ _ first
  | cons c first tail ih => simp [hitem _ _ first, ih]

theorem FilterSpelling.noEnd {ws : List Lexeme} {c : Option Comparison} (h : FilterSpelling ws c) :
    NoEnd ws := by
  cases h with
  | none => simp
  | some w c o cmp value => simp [compareOp?_ne_eof cmp, value.noEnd]

theorem ProjectionSpelling.noEnd {ws : List Lexeme} {p : Projection} (h : ProjectionSpelling ws p) :
    NoEnd ws := by
  cases h with
  | all a => simp
  | columns list => exact list.noEnd fun _ _ h => h.noEnd

theorem Sentence.noEnd {ws : List Lexeme} {s : Statement} (h : Sentence ws s) : NoEnd ws := by
  cases h with
  | createTable k₁ k₂ x p₁ p₂ p₃ columns => simp [columns.noEnd fun _ _ h => h.noEnd]
  | insert k₁ k₂ x k₃ p₁ p₂ p₃ values => simp [values.noEnd fun _ _ h => h.noEnd]
  | select k₁ k₂ x p projection filter => simp [projection.noEnd, filter.noEnd]
  | update k₁ x k₂ p assignments filter =>
    simp [assignments.noEnd fun _ _ h => h.noEnd, filter.noEnd]

end Grammar

end TinySql.Sql
