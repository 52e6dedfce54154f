import TinySql.Proofs.Lexing
import TinySql.Proofs.Parsing

/-!
Printing a statement and reading it back. A statement is printed as the tokens of its sentence
one space apart: keywords in upper case, names as they are, a literal as its digits when it is
a non-empty run of ASCII digits and between quotes otherwise, and a VARCHAR length in decimal.

Main statement: a printable statement (its names are words and no keywords, its literals hold
no quote, its VARCHAR lengths are above zero and its lists are not empty) parses back from its
printed text; every statement that parses is printable; so printing a parsed statement and
parsing the text again gives the same statement.
-/

namespace TinySql

open Sql Grammar

/-! ## The printer -/

/-- A keyword, written in upper case. -/
def Sql.keyword (k : TokenKind) : Lexeme := (k, k.name)

/-- A literal as a token: a number when it is a non-empty run of ASCII digits, a string
otherwise. -/
def Sql.literalLexeme (x : String) : Lexeme := if isNumeral x then (.number, x) else (.string, x)

/-- The tokens of a list: its items' tokens with commas between them. -/
def Sql.commaSeparated {α : Type} (item : α → List Lexeme) (as : List α) : List Lexeme :=
  [(.comma, ",")].intercalate (as.map item)

def Sql.CompareOp.kind : CompareOp → TokenKind
  | .eq => .equals
  | .ne => .notEquals
  | .gt => .greaterThan
  | .lt => .lessThan
  | .ge => .greaterEqual
  | .le => .lessEqual

def DataType.lexemes : DataType → List Lexeme
  | .int => [keyword .int]
  | .varchar n =>
    [keyword .varchar, (.leftParen, "("), (.number, Nat.repr n.toNat), (.rightParen, ")")]

def Column.lexemes (c : Column) : List Lexeme := (.identifier, c.name) :: c.type.lexemes

def Sql.Assignment.lexemes (a : Assignment) : List Lexeme :=
  [(.identifier, a.column), (.equals, "="), literalLexeme a.value]

def Sql.filterLexemes : Option Comparison → List Lexeme
  | none => []
  | some c =>
    [keyword .«where», (.identifier, c.column), (c.op.kind, c.op.symbol), literalLexeme c.literal]

def Sql.Projection.lexemes : Projection → List Lexeme
  | .all => [(.asterisk, "*")]
  | .columns names => commaSeparated (fun x => [(.identifier, x)]) names

/-- The tokens of a statement's sentence. -/
def Sql.Statement.lexemes : Statement → List Lexeme
  | .createTable t cols =>
    [keyword .create, keyword .table, (.identifier, t), (.leftParen, "(")] ++
      commaSeparated Column.lexemes cols ++ [(.rightParen, ")"), (.semicolon, ";")]
  | .insert t vals =>
    [keyword .insert, keyword .into, (.identifier, t), keyword .values, (.leftParen, "(")] ++
      commaSeparated (fun v => [literalLexeme v]) vals ++ [(.rightParen, ")"), (.semicolon, ";")]
  | .select p t f =>
    [keyword .select] ++ p.lexemes ++ [keyword .«from», (.identifier, t)] ++ filterLexemes f ++
      [(.semicolon, ";")]
  | .update t as f =>
    [keyword .update, (.identifier, t), keyword .set] ++ commaSeparated Assignment.lexemes as ++
      filterLexemes f ++ [(.semicolon, ";")]

/-- A statement written out: the tokens of its sentence, one space apart. -/
def Sql.Statement.print (s : Statement) : String := " ".intercalate (s.lexemes.map spell)

example : (Statement.update "t" [⟨"b", "x y"⟩, ⟨"c", "7"⟩] (some ⟨"a", .ge, "10"⟩)).print =
    "UPDATE t SET b = 'x y' , c = 7 WHERE a >= 10 ;" := by
  decide

/-! ## Printable statements -/

def DataType.isPrintable : DataType → Bool
  | .int => true
  | .varchar n => n != 0

def Column.isPrintable (c : Column) : Bool := isName c.name && c.type.isPrintable

def Sql.Assignment.isPrintable (a : Assignment) : Bool := isName a.column && isLiteral a.value

def Sql.Comparison.isPrintable (c : Comparison) : Bool := isName c.column && isLiteral c.literal

def Sql.Projection.isPrintable : Projection → Bool
  | .all => true
  | .columns names => !names.isEmpty && names.all isName

/-- Names are words and no keywords, literals hold no quote, VARCHAR lengths are above zero
and lists are not empty. -/
def Sql.Statement.isPrintable : Statement → Bool
  | .createTable t cols => isName t && !cols.isEmpty && cols.all Column.isPrintable
  | .insert t vals => isName t && !vals.isEmpty && vals.all isLiteral
  | .select p t f => p.isPrintable && isName t && f.all Comparison.isPrintable
  | .update t as f =>
    isName t && !as.isEmpty && as.all Assignment.isPrintable && f.all Comparison.isPrintable

/-! ## A printable statement's tokens spell it -/

theorem Sql.compareOp?_kind (op : CompareOp) : compareOp? op.kind = some op := by
  cases op <;> rfl

theorem Sql.isNumeral_repr (m : Nat) : isNumeral (Nat.repr m) := by
  simp only [isNumeral, Nat.toList_repr, Bool.and_eq_true, Bool.not_eq_true',
    List.isEmpty_eq_false_iff, List.all_eq_true]
  exact ⟨Nat.toDigits_ne_nil, fun c hc => Nat.isDigit_of_mem_toDigits (by decide) (by decide) hc⟩

theorem Text.parseWord?_repr (n : UInt64) : Text.parseWord? (Nat.repr n.toNat) = some n := by
  have hnum : (!(Nat.repr n.toNat).toList.isEmpty &&
      (Nat.repr n.toNat).toList.all Char.isDigit) = true := isNumeral_repr n.toNat
  have hvalue : Text.digitsValue? (Nat.repr n.toNat).toList = some n.toNat := by
    rw [Text.digitsValue?, if_pos hnum, Nat.toList_repr]
    exact congrArg some Nat.ofDigitChars_ten_toDigits
  unfold Text.parseWord?
  split
  · -- a digit is no sign
    rename_i rest hplus
    rw [hplus] at hnum
    simp at hnum
  · dsimp only
    rw [hvalue, Option.bind_some, if_pos (UInt64.toNat_lt n), UInt64.ofNat_toNat]

theorem typeSpelling_lexemes {d : DataType} (h : d.isPrintable) : TypeSpelling d.lexemes d := by
  cases d with
  | int => exact .int _
  | varchar n =>
    exact .varchar _ _ _ _ (Text.parseWord?_repr n) (by simpa [DataType.isPrintable] using h)

theorem Sql.literalSpelling_literalLexeme (x : String) : LiteralSpelling [literalLexeme x] x := by
  unfold literalLexeme
  split
  · exact .number x
  · exact .string x

theorem Sql.listSpelling_commaSeparated {α : Type} {item : List Lexeme → α → Prop}
    {f : α → List Lexeme} {as : List α} (hne : as ≠ []) (h : ∀ a ∈ as, item (f a) a) :
    ListSpelling item (commaSeparated f as) as := by
  induction as with
  | nil => exact absurd rfl hne
  | cons a as ih =>
    cases as with
    | nil =>
      have hone : ListSpelling item (f a) [a] := .one (h a List.mem_cons_self)
      simpa [commaSeparated] using hone
    | cons b bs =>
      have htail := ih (List.cons_ne_nil b bs) fun a' ha' => h a' (List.mem_cons_of_mem _ ha')
      have hcons := ListSpelling.cons "," (h a List.mem_cons_self) htail
      simpa [commaSeparated, List.intercalate_cons_cons] using hcons

theorem Sql.filterSpelling_filterLexemes (f : Option Comparison) :
    FilterSpelling (filterLexemes f) f := by
  cases f with
  | none => exact .none
  | some c =>
    exact .some _ c.column _ (compareOp?_kind c.op) (literalSpelling_literalLexeme c.literal)

theorem Sql.projectionSpelling_lexemes {p : Projection} (h : p.isPrintable) :
    ProjectionSpelling p.lexemes p := by
  cases p with
  | all => exact .all _
  | columns names =>
    simp only [Projection.isPrintable, Bool.and_eq_true, Bool.not_eq_true',
      List.isEmpty_eq_false_iff] at h
    exact .columns (listSpelling_commaSeparated h.1 fun x _ => .mk x)

theorem Sql.sentence_lexemes {s : Statement} (h : s.isPrintable) : Sentence s.lexemes s := by
  -- only the lists being non-empty and the lengths above zero matter to the grammar
  cases s <;> simp only [Statement.isPrintable, Bool.and_eq_true, Bool.not_eq_true',
    List.isEmpty_eq_false_iff, List.all_eq_true] at h
  case createTable t cols =>
    obtain ⟨⟨-, hne⟩, hcols⟩ := h
    simp only [Column.isPrintable, Bool.and_eq_true] at hcols
    exact .createTable _ _ t _ _ _
      (listSpelling_commaSeparated hne fun c hc => .mk c.name (typeSpelling_lexemes (hcols c hc).2))
  case insert t vals =>
    exact .insert _ _ t _ _ _ _
      (listSpelling_commaSeparated h.1.2 fun v _ => literalSpelling_literalLexeme v)
  case select p t f =>
    exact .select _ _ t _ (projectionSpelling_lexemes h.1.1) (filterSpelling_filterLexemes f)
  case update t as f =>
    exact .update _ t _ _
      (listSpelling_commaSeparated h.1.1.2 fun a _ =>
        .mk a.column _ (literalSpelling_literalLexeme a.value))
      (filterSpelling_filterLexemes f)

/-! ## A printable statement's tokens are read back -/

theorem Sql.spellable_keyword {k : TokenKind} (hk : k ∈ keywordKinds) : Spellable (keyword k) := by
  obtain ⟨hword, hkw⟩ := keyword_name_isWord k hk
  have h := spellable_word hword
  rwa [hkw, Option.getD_some] at h

theorem Sql.spellable_name {x : String} (h : isName x) : Spellable (.identifier, x) := by
  simp only [isName, Bool.and_eq_true, Option.isNone_iff_eq_none] at h
  have hw := spellable_word h.1
  rwa [h.2, Option.getD_none] at hw

theorem Sql.spellable_literalLexeme {x : String} (h : isLiteral x) : Spellable (literalLexeme x) := by
  unfold literalLexeme
  split
  · exact spellable_numeral ‹_›
  · exact spellable_string h

theorem Sql.spellable_compareOp (op : CompareOp) : Spellable (op.kind, op.symbol) := by
  apply spellable_symbol
  cases op <;> decide

theorem Sql.forall_mem_commaSeparated {α : Type} {P : Lexeme → Prop} (hcomma : P (.comma, ","))
    {f : α → List Lexeme} {as : List α} (h : ∀ a ∈ as, ∀ l ∈ f a, P l) :
    ∀ l ∈ commaSeparated f as, P l := by
  induction as with
  | nil => simp [commaSeparated]
  | cons a as ih =>
    have ha := h a List.mem_cons_self
    have has := ih fun a' ha' => h a' (List.mem_cons_of_mem _ ha')
    cases as with
    | nil => simpa [commaSeparated] using ha
    | cons b bs =>
      intro l hl
      simp only [commaSeparated, List.map_cons, List.intercalate_cons_cons, List.mem_append,
        List.mem_singleton] at hl
      rcases hl with (hl | rfl) | hl
      · exact ha l hl
      · exact hcomma
      · exact has l hl

theorem Sql.spellable_filterLexemes {f : Option Comparison} (h : f.all Comparison.isPrintable) :
    ∀ l ∈ filterLexemes f, Spellable l := by
  cases f with
  | none => simp [filterLexemes]
  | some c =>
    simp only [Option.all_some, Comparison.isPrintable, Bool.and_eq_true] at h
    simp only [filterLexemes, List.forall_mem_cons, List.not_mem_nil, IsEmpty.forall_iff,
      implies_true, and_true]
    exact ⟨spellable_keyword (by decide), spellable_name h.1, spellable_compareOp c.op,
      spellable_literalLexeme h.2⟩

theorem DataType.spellable_lexemes (d : DataType) : ∀ l ∈ d.lexemes, Spellable l := by
  cases d with
  | int => simpa [DataType.lexemes] using spellable_keyword (by decide)
  | varchar n =>
    simp only [DataType.lexemes, List.forall_mem_cons, List.not_mem_nil, IsEmpty.forall_iff,
      implies_true, and_true]
    exact ⟨spellable_keyword (by decide), spellable_symbol _ (by decide),
      spellable_numeral (isNumeral_repr _), spellable_symbol _ (by decide)⟩

theorem Sql.spellable_lexemes {s : Statement} (h : s.isPrintable) : ∀ l ∈ s.lexemes, Spellable l := by
  have hcomma : Spellable (.comma, ",") := spellable_symbol _ (by decide)
  have hsemi : Spellable (.semicolon, ";") := spellable_symbol _ (by decide)
  -- every statement is keywords and punctuation around its names, literals and lists
  cases s <;> simp only [Statement.isPrintable, Statement.lexemes, Bool.and_eq_true,
    List.all_eq_true, List.forall_mem_append, List.forall_mem_cons, List.not_mem_nil,
    IsEmpty.forall_iff, implies_true, and_true] at h ⊢
  case createTable t cols =>
    obtain ⟨⟨ht, -⟩, hcols⟩ := h
    refine ⟨⟨⟨spellable_keyword (by decide), spellable_keyword (by decide), spellable_name ht,
      spellable_symbol _ (by decide)⟩, forall_mem_commaSeparated hcomma fun c hc => ?_⟩,
      spellable_symbol _ (by decide), hsemi⟩
    simp only [Column.isPrintable, Bool.and_eq_true] at hcols
    exact List.forall_mem_cons.2 ⟨spellable_name (hcols c hc).1, c.type.spellable_lexemes⟩
  case insert t vals =>
    obtain ⟨⟨ht, -⟩, hvals⟩ := h
    refine ⟨⟨⟨spellable_keyword (by decide), spellable_keyword (by decide), spellable_name ht,
      spellable_keyword (by decide), spellable_symbol _ (by decide)⟩,
      forall_mem_commaSeparated hcomma fun v hv => ?_⟩, spellable_symbol _ (by decide), hsemi⟩
    simpa using spellable_literalLexeme (hvals v hv)
  case select p t f =>
    obtain ⟨⟨hp, ht⟩, hf⟩ := h
    refine ⟨⟨⟨⟨spellable_keyword (by decide), ?_⟩, spellable_keyword (by decide),
      spellable_name ht⟩, spellable_filterLexemes hf⟩, hsemi⟩
    -- the select list
    cases p with
    | all => simpa [Projection.lexemes] using spellable_symbol _ (by decide)
    | columns names =>
      simp only [Projection.isPrintable, Bool.and_eq_true, List.all_eq_true] at hp
      exact forall_mem_commaSeparated hcomma fun x hx => by simpa using spellable_name (hp.2 x hx)
  case update t as f =>
    obtain ⟨⟨⟨ht, -⟩, has⟩, hf⟩ := h
    refine ⟨⟨⟨⟨spellable_keyword (by decide), spellable_name ht, spellable_keyword (by decide)⟩,
      forall_mem_commaSeparated hcomma fun a ha => ?_⟩, spellable_filterLexemes hf⟩, hsemi⟩
    simp only [Assignment.isPrintable, Bool.and_eq_true] at has
    simp only [Assignment.lexemes, List.forall_mem_cons, List.not_mem_nil, IsEmpty.forall_iff,
      implies_true, and_true]
    exact ⟨spellable_name (has a ha).1, spellable_symbol _ (by decide),
      spellable_literalLexeme (has a ha).2⟩

theorem Sql.parse_print {s : Statement} (h : s.isPrintable) : parse s.print = .ok s := by
  have hlex := lexemes_tokenize_intercalate (spellable_lexemes h)
  obtain ⟨pre, last, hts, hpre, hlast⟩ := List.map_eq_append_iff.1 hlex
  obtain ⟨e, rfl, he⟩ := List.map_eq_singleton_iff.1 hlast
  have hwith : withEnd (pre ++ [e]) = pre ++ [e] := by
    simp [withEnd, (lexeme_eq.1 he).1]
  rw [parse, parseTokens, Statement.print, hts, hwith]
  exact statement_complete [e] (hpre ▸ sentence_lexemes h)

/-! ## Every parsed statement is printable -/

section Lexed

variable {ws : List Lexeme}

theorem Sql.Grammar.NameSpelling.isName {x : String} (h : NameSpelling ws x)
    (hl : ∀ l ∈ ws, Lexed l) : isName x := by
  cases h with
  | mk x => exact (hl _ List.mem_cons_self).1 rfl

theorem Sql.Grammar.LiteralSpelling.isLiteral {x : String} (h : LiteralSpelling ws x)
    (hl : ∀ l ∈ ws, Lexed l) : isLiteral x := by
  cases h with
  | string x => exact (hl _ List.mem_cons_self).2.1 rfl
  | number x => exact isLiteral_of_isNumeral ((hl _ List.mem_cons_self).2.2 rfl)

theorem Sql.Grammar.TypeSpelling.isPrintable {d : DataType} (h : TypeSpelling ws d) :
    d.isPrintable := by
  cases h with
  | int w => rfl
  | varchar w l d r length positive => simpa [DataType.isPrintable] using positive

theorem Sql.Grammar.ColumnSpelling.isPrintable {c : Column} (h : ColumnSpelling ws c)
    (hl : ∀ l ∈ ws, Lexed l) : c.isPrintable := by
  cases h with
  | mk x type => simp [Column.isPrintable, (hl _ List.mem_cons_self).1 rfl, type.isPrintable]

theorem Sql.Grammar.AssignmentSpelling.isPrintable {a : Assignment} (h : AssignmentSpelling ws a)
    (hl : ∀ l ∈ ws, Lexed l) : a.isPrintable := by
  cases h with
  | mk c e value =>
    have hvalue := value.isLiteral fun l h => hl l (by simp [h])
    simp [Assignment.isPrintable, (hl _ List.mem_cons_self).1 rfl, hvalue]

theorem Sql.Grammar.ListSpelling.forall_of_lexed {α : Type} {item : List Lexeme → α → Prop}
    {P : α → Prop} (hitem : ∀ ws a, item ws a → (∀ l ∈ ws, Lexed l) → P a) {as : List α}
    (h : ListSpelling item ws as) (hl : ∀ l ∈ ws, Lexed l) : as ≠ [] ∧ ∀ a ∈ as, P a := by
  induction h with
  | one first => exact ⟨List.cons_ne_nil _ _, by simpa using hitem _ _ first hl⟩
  | cons c first tail ih =>
    have hfirst := hitem _ _ first fun l h => hl l (List.mem_append_left _ h)
    have htail := ih fun l h => hl l (List.mem_append_right _ (List.mem_cons_of_mem _ h))
    exact ⟨List.cons_ne_nil _ _, List.forall_mem_cons.2 ⟨hfirst, htail.2⟩⟩

theorem Sql.Grammar.FilterSpelling.isPrintable {c : Option Comparison} (h : FilterSpelling ws c)
    (hl : ∀ l ∈ ws, Lexed l) : c.all Comparison.isPrintable := by
  cases h with
  | none => rfl
  | some w c o cmp value =>
    have hvalue := value.isLiteral fun l h => hl l (by simp [h])
    simp [Comparison.isPrintable, (hl (.identifier, c) (by simp)).1 rfl, hvalue]

theorem Sql.Grammar.ProjectionSpelling.isPrintable {p : Projection} (h : ProjectionSpelling ws p)
    (hl : ∀ l ∈ ws, Lexed l) : p.isPrintable := by
  cases h with
  | all a => rfl
  | columns list =>
    obtain ⟨hne, hnames⟩ := list.forall_of_lexed (fun _ _ h hl => h.isName hl) hl
    simpa [Projection.isPrintable, hne] using hnames

theorem Sql.Grammar.Sentence.isPrintable {s : Statement} (h : Sentence ws s)
    (hl : ∀ l ∈ ws, Lexed l) : s.isPrintable := by
  cases h with
  | createTable k₁ k₂ x p₁ p₂ p₃ columns =>
    obtain ⟨hne, hcols⟩ := columns.forall_of_lexed (fun _ _ h hl => h.isPrintable hl)
      fun l h => hl l (by simp [h])
    simpa [Statement.isPrintable, (hl (.identifier, x) (by simp)).1 rfl, hne] using hcols
  | insert k₁ k₂ x k₃ p₁ p₂ p₃ values =>
    obtain ⟨hne, hvals⟩ := values.forall_of_lexed (fun _ _ h hl => h.isLiteral hl)
      fun l h => hl l (by simp [h])
    simpa [Statement.isPrintable, (hl (.identifier, x) (by simp)).1 rfl, hne] using hvals
  | select k₁ k₂ x p projection filter =>
    have hp := projection.isPrintable fun l h => hl l (by simp [h])
    have hf := filter.isPrintable fun l h => hl l (by simp [h])
    simp [Statement.isPrintable, (hl (.identifier, x) (by simp)).1 rfl, hp, hf]
  | update k₁ x k₂ p assignments filter =>
    obtain ⟨hne, has⟩ := assignments.forall_of_lexed (fun _ _ h hl => h.isPrintable hl)
      fun l h => hl l (by simp [h])
    have hf := filter.isPrintable fun l h => hl l (by simp [h])
    simpa [Statement.isPrintable, (hl (.identifier, x) (by simp)).1 rfl, hne, hf] using has

end Lexed

theorem Sql.mem_withEnd {L : List Token} {t : Token} (h : t ∈ withEnd L) :
    t ∈ L ∨ t.kind = .eof := by
  rcases withEnd_eq L with hL | ⟨e, he, hL⟩
  · exact .inl (hL ▸ h)
  · rw [hL] at h
    rcases List.mem_append.1 h with h | h
    · exact .inl h
    · exact .inr (List.mem_singleton.1 h ▸ he)

theorem Sql.isPrintable_of_parse {text : String} {s : Statement} (h : parse text = .ok s) :
    s.isPrintable := by
  obtain ⟨ws, rest, hts, hs⟩ := statement_sound h
  apply hs.isPrintable
  intro l hl
  obtain ⟨t, ht, rfl⟩ := List.mem_map.1 hl
  have hwith : t ∈ withEnd (tokenize text) := hts ▸ List.mem_append_left rest ht
  rcases mem_withEnd hwith with htok | heof
  · exact lexed_lexFrom 0 text.toList t (List.mem_filter.1 htok).1
  · show Lexed (t.kind, t.text)
    exact lexed_of_kind (by simp [heof])

/-- Printing then parsing gives back every printable statement, and parsing gives printable
statements only: so a parsed statement, printed and parsed again, is the same. -/
theorem Sql.print_parse_round_trip :
    (∀ s : Statement, s.isPrintable → parse s.print = .ok s) ∧
      ∀ (text : String) (s : Statement), parse text = .ok s →
        s.isPrintable ∧ parse s.print = parse text := by
  refine ⟨fun s h => parse_print h, fun text s h => ?_⟩
  have hs := isPrintable_of_parse h
  exact ⟨hs, (parse_print hs).trans h.symm⟩

theorem Sql.parsed_update_prints_back :
    let text := "update t set b = 'x y', c = 7 where a >= 10;"
    let s := Statement.update "t" [⟨"b", "x y"⟩, ⟨"c", "7"⟩] (some ⟨"a", .ge, "10"⟩)
    parse text = .ok s ∧ s.isPrintable ∧ parse s.print = .ok s := by
  intro text s
  have hparse : parse text = .ok s := by
    have hopt : (parse text).toOption = some s := by decide +kernel
    cases hp : parse text with
    | error e => simp [hp, Except.toOption] at hopt
    | ok v => simpa [hp, Except.toOption] using hopt
  obtain ⟨hs, hprint⟩ := print_parse_round_trip.2 text s hparse
  exact ⟨hparse, hs, print_parse_round_trip.1 s hs⟩

end TinySql
