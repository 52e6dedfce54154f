import Mathlib.Tactic.SplitIfs
import TinySql.Proofs.Grammar

/-!
What the lexer reads back. Two facts about the whole lexer: the kinds and texts of the tokens
of a text do not depend on the offset it starts at, and depend only on what is left after its
leading blanks. From these, written tokens joined by single spaces lex back to themselves, as
long as each token, written out, is read back whole when a space or nothing follows it
(`Spellable`). The other way round, every token the lexer gives can be written out again: an
identifier is a word that is no keyword, a string holds no quote and a number is ASCII digits
(`Lexed`).
-/

namespace TinySql.Sql

/-! ## Texts of names and literals -/

/-- An ASCII letter or `_`, then letters, digits or `_` in the Unicode sense. -/
def isWord (x : String) : Bool :=
  match x.toList with
  | c :: more => isWordStart c && more.all isWordChar
  | [] => false

/-- A word that spells no keyword. -/
def isName (x : String) : Bool := isWord x && (TokenKind.ofKeyword? x).isNone

/-- A literal text with no quote in it. -/
def isLiteral (x : String) : Bool := !x.toList.contains '\''

theorem isLiteral_iff {x : String} : isLiteral x ↔ '\'' ∉ x.toList := by
  simp [isLiteral]

/-- A non-empty run of ASCII digits. -/
def isNumeral (x : String) : Bool := !x.toList.isEmpty && x.toList.all Char.isDigit

/-- The keywords that have a spelling. -/
def keywordKinds : List TokenKind :=
  [.create, .table, .insert, .into, .values, .select, .«from», .«where», .update, .set, .int,
    .varchar]

theorem keyword_name_isWord :
    ∀ k ∈ keywordKinds, isWord k.name ∧ TokenKind.ofKeyword? k.name = some k := by
  decide

theorem isLiteral_of_isNumeral {x : String} (h : isNumeral x) : isLiteral x := by
  simp only [isNumeral, Bool.and_eq_true, List.all_eq_true] at h
  rw [isLiteral_iff]
  intro hq
  exact absurd (h.2 _ hq) (by decide)

/-! ## Character classes by code point -/

theorem toNat_of_isWordStart {c : Char} (h : isWordStart c = true) :
    65 ≤ c.toNat ∧ c.toNat ≤ 90 ∨ 97 ≤ c.toNat ∧ c.toNat ≤ 122 ∨ c.toNat = 95 := by
  -- the ASCII letter tests, as the comparisons they are
  change ((decide (c.val ≥ 'A'.val ∧ c.val ≤ 'Z'.val) ||
    (decide (c.val ≥ 'a'.val) && decide (c.val ≤ 'z'.val))) || decide (c = '_')) = true at h
  simp only [Bool.or_eq_true, Bool.and_eq_true, decide_eq_true_eq] at h
  rcases h with (h | h) | rfl
  · simp [UInt32.le_iff_toNat_le] at h
    omega
  · simp [UInt32.le_iff_toNat_le] at h
    omega
  · decide

theorem toNat_of_isDigit {c : Char} (h : c.isDigit = true) : 48 ≤ c.toNat ∧ c.toNat ≤ 57 := by
  simpa [Char.isDigit, UInt32.le_iff_toNat_le] using h

theorem isBlank_of_isWordStart {c : Char} (h : isWordStart c = true) : Text.isBlank c = false := by
  have := toNat_of_isWordStart h
  simp [Text.isBlank, Text.inRanges, Text.blankRanges]
  omega

theorem isBlank_of_isDigit {c : Char} (h : c.isDigit = true) : Text.isBlank c = false := by
  have := toNat_of_isDigit h
  simp [Text.isBlank, Text.inRanges, Text.blankRanges]
  omega

theorem isDigit_of_isWordStart {c : Char} (h : isWordStart c = true) : c.isDigit = false := by
  have := toNat_of_isWordStart h
  have : ¬ (48 ≤ c.toNat ∧ c.toNat ≤ 57) := by omega
  cases hd : c.isDigit
  · rfl
  · exact absurd (toNat_of_isDigit hd) this

/-! ## One token -/

theorem readToken_of_isDigit {c : Char} (hc : c.isDigit = true) (p : Nat) (cs : List Char) :
    readToken p c cs =
      (⟨.number, String.ofList (c :: cs.takeWhile Char.isDigit), p⟩, cs.dropWhile Char.isDigit) := by
  unfold readToken
  split
  all_goals try exact absurd hc (by decide)
  rw [if_pos hc]

theorem readToken_of_isWordStart {c : Char} (hc : isWordStart c = true) (p : Nat) (cs : List Char) :
    readToken p c cs =
      (⟨(TokenKind.ofKeyword? (String.ofList (c :: cs.takeWhile isWordChar))).getD .identifier,
        String.ofList (c :: cs.takeWhile isWordChar), p⟩, cs.dropWhile isWordChar) := by
  unfold readToken
  split
  all_goals try exact absurd hc (by decide)
  rw [if_neg (by simp [isDigit_of_isWordStart hc]), if_pos hc]

theorem readToken_lexeme_pos (p q : Nat) (c : Char) (cs : List Char) :
    (readToken p c cs).1.lexeme = (readToken q c cs).1.lexeme ∧
      (readToken p c cs).2 = (readToken q c cs).2 := by
  unfold readToken
  split
  -- the six one-character symbols
  any_goals exact ⟨rfl, rfl⟩
  -- the symbols that look one character ahead, and quoted strings
  any_goals (split <;> exact ⟨rfl, rfl⟩)
  -- numbers, words and unknown characters
  split_ifs <;> exact ⟨rfl, rfl⟩

/-! ## The whole text -/

theorem lexemes_lexFrom_pos (p q : Nat) (cs : List Char) :
    (lexFrom p cs).map Token.lexeme = (lexFrom q cs).map Token.lexeme := by
  fun_induction lexFrom p cs generalizing q with
  | case1 pos cs h =>
    conv => rhs; rw [lexFrom]
    split
    · rfl
    · rename_i h'
      rw [h] at h'
      cases h'
  | case2 pos cs c more h start step ih =>
    conv => rhs; rw [lexFrom]
    split
    · rename_i h'
      rw [h] at h'
      cases h'
    · rename_i c' more' h'
      rw [h] at h'
      obtain ⟨rfl, rfl⟩ := List.cons_eq_cons.1 h'
      obtain ⟨hl, hr⟩ := readToken_lexeme_pos start (q + (cs.length - (more.length + 1))) c more
      rw [List.map_cons, List.map_cons, ← hr, ← hl, ih]

theorem lexemes_lexFrom_of_dropWhile_nil {cs : List Char} (h : cs.dropWhile Text.isBlank = [])
    (p : Nat) : (lexFrom p cs).map Token.lexeme = [(.eof, "")] := by
  rw [lexFrom]
  split
  · rfl
  · rename_i h'
    rw [h] at h'
    cases h'

theorem lexemes_lexFrom_of_dropWhile_cons {cs : List Char} {c : Char} {more : List Char}
    (h : cs.dropWhile Text.isBlank = c :: more) (p : Nat) :
    (lexFrom p cs).map Token.lexeme =
      (readToken 0 c more).1.lexeme :: (lexFrom 0 (readToken 0 c more).2).map Token.lexeme := by
  rw [lexFrom]
  split
  · rename_i h'
    rw [h] at h'
    cases h'
  · rename_i c' more' h'
    rw [h] at h'
    obtain ⟨rfl, rfl⟩ := List.cons_eq_cons.1 h'
    obtain ⟨hl, hr⟩ := readToken_lexeme_pos (p + (cs.length - (more.length + 1))) 0 c more
    rw [List.map_cons, hl, ← hr, lexemes_lexFrom_pos _ 0]

theorem lexemes_lexFrom_of_dropWhile {cs cs' : List Char}
    (h : cs.dropWhile Text.isBlank = cs'.dropWhile Text.isBlank) (p q : Nat) :
    (lexFrom p cs).map Token.lexeme = (lexFrom q cs').map Token.lexeme := by
  cases hd : cs'.dropWhile Text.isBlank with
  | nil =>
    rw [lexemes_lexFrom_of_dropWhile_nil (h.trans hd), lexemes_lexFrom_of_dropWhile_nil hd]
  | cons c more =>
    rw [lexemes_lexFrom_of_dropWhile_cons (h.trans hd), lexemes_lexFrom_of_dropWhile_cons hd]

/-! ## Written tokens read back -/

/-- How a token is written: a string between quotes, anything else as its text. -/
def spell (l : Lexeme) : String := if l.1 = .string then "'" ++ l.2 ++ "'" else l.2

/-- What may follow a written token: nothing, or a space. -/
def SpaceOrEnd (cs : List Char) : Prop := ∀ c ∈ cs.head?, c = ' '

theorem spaceOrEnd_cases {rest : List Char} (h : SpaceOrEnd rest) :
    rest = [] ∨ ∃ r, rest = ' ' :: r := by
  cases rest with
  | nil => exact .inl rfl
  | cons d r =>
    obtain rfl : d = ' ' := h d rfl
    exact .inr ⟨r, rfl⟩

theorem takeWhile_append_spaceOrEnd {p : Char → Bool} (hp : p ' ' = false) {run rest : List Char}
    (hrun : ∀ d ∈ run, p d) (hrest : SpaceOrEnd rest) :
    (run ++ rest).takeWhile p = run ∧ (run ++ rest).dropWhile p = rest := by
  rw [List.takeWhile_append_of_pos hrun, List.dropWhile_append_of_pos hrun]
  rcases spaceOrEnd_cases hrest with rfl | ⟨r, rfl⟩ <;> simp [hp]

/-- A token that tokenizing keeps, and that its written form `c :: more` is read back as,
whatever follows it after a space. -/
def Spellable (l : Lexeme) : Prop :=
  l.1 ≠ .unknown ∧ ∃ c more, (spell l).toList = c :: more ∧ Text.isBlank c = false ∧
    ∀ rest, SpaceOrEnd rest →
      (readToken 0 c (more ++ rest)).1.lexeme = l ∧ (readToken 0 c (more ++ rest)).2 = rest

theorem ofKeyword?_mem {w : String} {k : TokenKind} (h : TokenKind.ofKeyword? w = some k) :
    k ∈ keywordKinds := by
  obtain ⟨u, -, hu⟩ := Option.bind_eq_some_iff.1 h
  unfold TokenKind.ofSpelling? at hu
  split at hu <;> cases hu <;> decide

theorem word_kind_mem (x : String) :
    (TokenKind.ofKeyword? x).getD .identifier ∈ .identifier :: keywordKinds := by
  cases hk : TokenKind.ofKeyword? x with
  | none => simp
  | some k => exact List.mem_cons_of_mem _ (ofKeyword?_mem hk)

theorem spellable_word {x : String} (h : isWord x) :
    Spellable ((TokenKind.ofKeyword? x).getD .identifier, x) := by
  unfold isWord at h
  split at h
  · rename_i c more hx
    simp only [Bool.and_eq_true, List.all_eq_true] at h
    obtain ⟨hc, hmore⟩ := h
    have hkind : ∀ k ∈ TokenKind.identifier :: keywordKinds, k ≠ .string ∧ k ≠ .unknown := by
      decide
    obtain ⟨hstring, hunknown⟩ := hkind _ (word_kind_mem x)
    refine ⟨hunknown, c, more, by simp [spell, hstring, hx], isBlank_of_isWordStart hc, ?_⟩
    intro rest hrest
    obtain ⟨ht, hd⟩ := takeWhile_append_spaceOrEnd (show isWordChar ' ' = false by decide) hmore hrest
    have hword : String.ofList (c :: more) = x := by rw [← hx, String.ofList_toList]
    rw [readToken_of_isWordStart hc, ht, hd, hword]
    exact ⟨rfl, rfl⟩
  · cases h

theorem spellable_numeral {x : String} (h : isNumeral x) : Spellable (.number, x) := by
  simp only [isNumeral, Bool.and_eq_true, Bool.not_eq_true', List.isEmpty_eq_false_iff,
    List.all_eq_true] at h
  obtain ⟨hne, hdigits⟩ := h
  obtain ⟨c, more, hx⟩ := List.exists_cons_of_ne_nil hne
  rw [hx] at hdigits
  have hc : c.isDigit = true := hdigits c List.mem_cons_self
  have hmore : ∀ d ∈ more, d.isDigit = true := fun d hd => hdigits d (List.mem_cons_of_mem _ hd)
  refine ⟨by simp, c, more, by simp [spell, hx], isBlank_of_isDigit hc, ?_⟩
  intro rest hrest
  obtain ⟨ht, hd⟩ := takeWhile_append_spaceOrEnd (show ' '.isDigit = false by decide) hmore hrest
  have hword : String.ofList (c :: more) = x := by rw [← hx, String.ofList_toList]
  rw [readToken_of_isDigit hc, ht, hd, hword]
  exact ⟨rfl, rfl⟩

theorem readToken_quote {body : List Char} (hbody : '\'' ∉ body) (p : Nat) (rest : List Char) :
    readToken p '\'' (body ++ '\'' :: rest) = (⟨.string, String.ofList body, p⟩, rest) := by
  have hne : ∀ d ∈ body, (!decide (d = '\'')) = true := by
    intro d hd
    simp only [Bool.not_eq_true', decide_eq_false_iff_not]
    rintro rfl
    exact hbody hd
  simp [readToken, List.takeWhile_append_of_pos hne, List.dropWhile_append_of_pos hne]

theorem spellable_string {x : String} (h : isLiteral x) : Spellable (.string, x) := by
  refine ⟨by simp, '\'', x.toList ++ ['\''], by simp [spell], by decide, ?_⟩
  intro rest _
  rw [List.append_assoc, List.singleton_append, readToken_quote (isLiteral_iff.1 h),
    String.ofList_toList]
  exact ⟨rfl, rfl⟩

/-- The written punctuation and comparison operators. -/
def symbolLexemes : List Lexeme :=
  [(.leftParen, "("), (.rightParen, ")"), (.comma, ","), (.semicolon, ";"), (.asterisk, "*"),
    (.equals, "="), (.notEquals, "<>"), (.greaterThan, ">"), (.lessThan, "<"),
    (.greaterEqual, ">="), (.lessEqual, "<=")]

theorem spellable_symbol : ∀ l ∈ symbolLexemes, Spellable l := by
  intro l hl
  simp only [symbolLexemes, List.mem_cons, List.not_mem_nil, or_false] at hl
  rcases hl with rfl | rfl | rfl | rfl | rfl | rfl | rfl | rfl | rfl | rfl | rfl
  all_goals
    refine ⟨by decide, _, _, rfl, by decide, fun rest hrest => ?_⟩
    -- `<` and `>` look at the next character, which is a space if anything
    rcases spaceOrEnd_cases hrest with rfl | ⟨r, rfl⟩ <;> exact ⟨rfl, rfl⟩

theorem lexemes_lexFrom_spell {l : Lexeme} (h : Spellable l) {rest : List Char}
    (hrest : SpaceOrEnd rest) (p : Nat) :
    (lexFrom p ((spell l).toList ++ rest)).map Token.lexeme =
      l :: (lexFrom 0 rest).map Token.lexeme := by
  obtain ⟨-, c, more, hspell, hc, hread⟩ := h
  obtain ⟨hl, hr⟩ := hread rest hrest
  have hd : ((spell l).toList ++ rest).dropWhile Text.isBlank = c :: (more ++ rest) := by
    simp [hspell, hc]
  rw [lexemes_lexFrom_of_dropWhile_cons hd, hl, hr]

theorem lexemes_lexFrom_space (p q : Nat) (cs : List Char) :
    (lexFrom p (' ' :: cs)).map Token.lexeme = (lexFrom q cs).map Token.lexeme :=
  lexemes_lexFrom_of_dropWhile (List.dropWhile_cons_of_pos (by decide)) p q

theorem lexemes_lexFrom_intercalate {ls : List Lexeme} (h : ∀ l ∈ ls, Spellable l) (p : Nat) :
    (lexFrom p ([' '].intercalate (ls.map fun l => (spell l).toList))).map Token.lexeme =
      ls ++ [(.eof, "")] := by
  induction ls generalizing p with
  | nil => exact lexemes_lexFrom_of_dropWhile_nil rfl p
  | cons l ls ih =>
    have hl := h l List.mem_cons_self
    have hls : ∀ l ∈ ls, Spellable l := fun l' hl' => h l' (List.mem_cons_of_mem _ hl')
    cases ls with
    | nil =>
      have := lexemes_lexFrom_spell hl (show SpaceOrEnd [] by simp [SpaceOrEnd]) p
      rw [lexemes_lexFrom_of_dropWhile_nil
          (show ([] : List Char).dropWhile Text.isBlank = [] from rfl),
        List.append_nil] at this
      simpa using this
    | cons l' ls =>
      have htail := ih hls 0
      rw [List.map_cons] at htail
      rw [List.map_cons, List.map_cons, List.intercalate_cons_cons, List.append_assoc,
        List.singleton_append, lexemes_lexFrom_spell hl (by simp [SpaceOrEnd]),
        lexemes_lexFrom_space 0 0, htail]
      rfl

theorem lexemes_tokenize_intercalate {ls : List Lexeme} (h : ∀ l ∈ ls, Spellable l) :
    (tokenize (" ".intercalate (ls.map spell))).map Token.lexeme = ls ++ [(.eof, "")] := by
  have hlex : (lex (" ".intercalate (ls.map spell))).map Token.lexeme = ls ++ [(.eof, "")] := by
    rw [lex, String.toList_intercalate, List.map_map]
    exact lexemes_lexFrom_intercalate h 0
  have hkept : ∀ l ∈ ls ++ [(.eof, "")], decide (l.1 ≠ .unknown) = true := by
    intro l hl
    rcases List.mem_append.1 hl with hl | hl
    · simpa using (h l hl).1
    · simp [List.mem_singleton.1 hl]
  have hkind : (fun t : Token => decide (t.kind ≠ .unknown)) =
      (fun l : Lexeme => decide (l.1 ≠ .unknown)) ∘ Token.lexeme := rfl
  rw [tokenize, hkind, ← List.filter_map, hlex, List.filter_eq_self.2 hkept]

/-! ## What the lexer gives -/

/-- What the lexer can give as the text of a token of each kind that carries its text: a name
for an identifier, a text with no quote for a string, and ASCII digits for a number. -/
def Lexed (l : Lexeme) : Prop :=
  (l.1 = .identifier → isName l.2) ∧ (l.1 = .string → isLiteral l.2) ∧
    (l.1 = .number → isNumeral l.2)

theorem lexed_of_kind {k : TokenKind} {x : String}
    (h : k ≠ .identifier ∧ k ≠ .string ∧ k ≠ .number) : Lexed (k, x) :=
  ⟨fun h' => absurd h' h.1, fun h' => absurd h' h.2.1, fun h' => absurd h' h.2.2⟩

theorem lexed_word {c : Char} (hc : isWordStart c = true) (cs : List Char) :
    Lexed ((TokenKind.ofKeyword? (String.ofList (c :: cs.takeWhile isWordChar))).getD .identifier,
      String.ofList (c :: cs.takeWhile isWordChar)) := by
  cases hk : TokenKind.ofKeyword? (String.ofList (c :: cs.takeWhile isWordChar)) with
  | none =>
    have hword : isWord (String.ofList (c :: cs.takeWhile isWordChar)) := by
      simp only [isWord, String.toList_ofList, hc, List.all_takeWhile, Bool.and_self]
    refine ⟨fun _ => ?_, by simp, by simp⟩
    rw [isName, hword, hk]
    rfl
  | some k =>
    have hkind : ∀ k ∈ keywordKinds, k ≠ .identifier ∧ k ≠ .string ∧ k ≠ .number := by decide
    exact lexed_of_kind (hkind k (ofKeyword?_mem hk))

theorem lexed_number {c : Char} (hc : c.isDigit = true) (cs : List Char) :
    Lexed (.number, String.ofList (c :: cs.takeWhile Char.isDigit)) := by
  refine ⟨by simp, by simp, fun _ => ?_⟩
  simp [isNumeral, hc, List.all_takeWhile]

theorem lexed_readToken (p : Nat) (c : Char) (cs : List Char) :
    Lexed (readToken p c cs).1.lexeme := by
  by_cases hd : c.isDigit
  · rw [readToken_of_isDigit hd]
    exact lexed_number hd cs
  by_cases hw : isWordStart c
  · rw [readToken_of_isWordStart hw]
    exact lexed_word hw cs
  -- what is left are symbols, quoted strings and unknown characters
  unfold readToken
  split
  case h_1 | h_2 | h_3 | h_4 | h_5 | h_6 => exact lexed_of_kind (by simp)
  case h_7 | h_8 => split <;> exact lexed_of_kind (by simp)
  case h_9 =>
    split
    · refine ⟨by simp [Token.lexeme], fun _ => ?_, by simp [Token.lexeme]⟩
      -- the text of a string stops before the first quote
      rw [Token.lexeme, isLiteral_iff, String.toList_ofList]
      intro hq
      simpa using List.all_eq_true.1 List.all_takeWhile _ hq
    · exact lexed_of_kind (by simp)
  case h_10 =>
    rw [if_neg hd, if_neg hw]
    exact lexed_of_kind (by simp)

theorem lexed_lexFrom (p : Nat) (cs : List Char) : ∀ t ∈ lexFrom p cs, Lexed t.lexeme := by
  fun_induction lexFrom p cs with
  | case1 pos cs h =>
    intro t ht
    rw [List.mem_singleton.1 ht]
    exact lexed_of_kind (by simp [Token.eof])
  | case2 pos cs c more h start step ih =>
    intro t ht
    rcases List.mem_cons.1 ht with rfl | ht
    · exact lexed_readToken _ c more
    · exact ih t ht

end TinySql.Sql
