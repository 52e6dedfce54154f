import TinySql.Proofs.Lexing

/-!
The lexer is the longest-match tokenizer of its token grammar. The grammar says which stretches
of text are tokens by themselves, and which token each is (`grammarToken?`): a word, a run of
ASCII digits, a string between quotes, a quote with no closing quote up to the end of the
input, or a symbol. At each point after the blanks the longest stretch that is a token is
taken, and where no stretch is one the first character alone is taken as UNKNOWN
(`LongestToken`). Doing so from the start of a text to its end is its tokenization
(`Tokenization`).

Main statement: for every text, the lexer's tokens are its tokenization and nothing else, and
they end with the only EOF, at the offset just past the text.
-/

namespace TinySql.Sql

/-! ## The grammar -/

/-- The token a stretch of text is by itself, if any, trying the classes in order: a word, a
run of ASCII digits, a string between quotes with no quote inside, a quote followed by no
other when the stretch runs to the end of the input (`toEnd`), and a symbol. -/
def grammarToken? (w : List Char) (toEnd : Bool) : Option Lexeme :=
  match w with
  | [] => none
  | c :: more =>
    if isWordStart c && more.all isWordChar then
      some ((TokenKind.ofKeyword? (String.ofList w)).getD .identifier, String.ofList w)
    else if w.all Char.isDigit then some (.number, String.ofList w)
    else if c = '\'' ∧ more.getLast? = some '\'' ∧ '\'' ∉ more.dropLast then
      some (.string, String.ofList more.dropLast)
    else if c = '\'' ∧ toEnd = true ∧ '\'' ∉ more then some (.unknown, String.ofList more)
    else symbolLexemes.find? (·.2.toList = w)

example : grammarToken? "<>".toList false = some (.notEquals, "<>") ∧
    grammarToken? "'a b'".toList false = some (.string, "a b") ∧
    grammarToken? "'a b".toList true = some (.unknown, "a b") ∧
    grammarToken? "'a b".toList false = none := by
  decide

/-- The token taken at the start of a text: its first `n` characters, which form a token when no
longer stretch does; or, when no stretch at all forms one, the first character alone as
UNKNOWN. -/
def LongestToken (cs : List Char) (n : Nat) (l : Lexeme) : Prop :=
  0 < n ∧ n ≤ cs.length ∧
    (∀ m, n < m → m ≤ cs.length → grammarToken? (cs.take m) (m == cs.length) = none) ∧
    (grammarToken? (cs.take n) (n == cs.length) = some l ∨
      n = 1 ∧ grammarToken? (cs.take 1) (1 == cs.length) = none ∧
        l = (.unknown, String.ofList (cs.take 1)))

/-- The tokens of a text whose first character stands at offset `pos`: blanks are skipped, at
each other point the longest token is taken, with the offset of its first character, and an EOF
ends the list at the offset just past the text. -/
inductive Tokenization : Nat → List Char → List Token → Prop
  | finish {pos : Nat} {blanks : List Char} (skipped : ∀ b ∈ blanks, Text.isBlank b = true) :
      Tokenization pos blanks [Token.eof (pos + blanks.length)]
  | token {pos : Nat} {blanks : List Char} {c : Char} {rest : List Char} {n : Nat} {t : Token}
      {ts : List Token} (skipped : ∀ b ∈ blanks, Text.isBlank b = true)
      (start : Text.isBlank c = false) (longest : LongestToken (c :: rest) n t.lexeme)
      (offset : t.pos = pos + blanks.length)
      (next : Tokenization (pos + blanks.length + n) ((c :: rest).drop n) ts) :
      Tokenization pos (blanks ++ c :: rest) (t :: ts)

/-! ## Runs of a class of characters -/

theorem length_le_takeWhile {p : Char → Bool} {w : List Char} (hw : ∀ d ∈ w, p d = true)
    (r : List Char) : w.length ≤ ((w ++ r).takeWhile p).length := by
  rw [List.takeWhile_append_of_pos hw, List.length_append]
  omega

theorem all_take_eq_false {p : Char → Bool} {l : List Char} {m : Nat}
    (hm : (l.takeWhile p).length < m) (hle : m ≤ l.length) : (l.take m).all p = false := by
  rw [Bool.eq_false_iff]
  intro hall
  have := length_le_takeWhile (List.all_eq_true.1 hall) (l.drop m)
  rw [List.take_append_drop, List.length_take_of_le hle] at this
  omega

theorem take_length_takeWhile (p : Char → Bool) (l : List Char) :
    l.take (l.takeWhile p).length = l.takeWhile p := by
  have h := List.takeWhile_append_dropWhile (p := p) (l := l)
  calc l.take (l.takeWhile p).length
      = (l.takeWhile p ++ l.dropWhile p).take (l.takeWhile p).length := by rw [h]
    _ = l.takeWhile p := List.take_left' rfl

theorem drop_length_takeWhile (p : Char → Bool) (l : List Char) :
    l.drop (l.takeWhile p).length = l.dropWhile p := by
  have h := List.takeWhile_append_dropWhile (p := p) (l := l)
  calc l.drop (l.takeWhile p).length
      = (l.takeWhile p ++ l.dropWhile p).drop (l.takeWhile p).length := by rw [h]
    _ = l.dropWhile p := List.drop_left' rfl

theorem forall_of_dropWhile_eq_nil {p : Char → Bool} {l : List Char} (h : l.dropWhile p = []) :
    ∀ d ∈ l, p d = true := by
  intro d hd
  have hl := List.takeWhile_append_dropWhile (p := p) (l := l)
  rw [h, List.append_nil] at hl
  rw [← hl] at hd
  exact List.all_eq_true.1 (List.all_takeWhile (l := l)) d hd

/-! ## The grammar by first character -/

theorem symbol_head?_mem : ∀ l ∈ symbolLexemes,
    l.2.toList.head? ∈ ['(', ')', ',', ';', '*', '=', '<', '>'].map some := by
  decide

theorem symbol_head_mem : ∀ l ∈ symbolLexemes, ∀ σ ∈ l.2.toList.head?,
    σ ∈ ['(', ')', ',', ';', '*', '=', '<', '>'] := by
  -- deciding the statement as it stands runs past the recursion limit, so the head is
  -- first turned into an option that is listed
  intro l hl σ hσ
  have h := symbol_head?_mem l hl
  rw [Option.mem_def.1 hσ] at h
  simpa using h

theorem symbol_head : ∀ l ∈ symbolLexemes, ∀ σ ∈ l.2.toList.head?,
    isWordStart σ = false ∧ σ.isDigit = false ∧ σ ≠ '\'' := by
  intro l hl σ hσ
  have h := symbol_head_mem l hl σ hσ
  simp only [List.mem_cons, List.not_mem_nil, or_false] at h
  rcases h with rfl | rfl | rfl | rfl | rfl | rfl | rfl | rfl <;> decide

theorem find?_symbol_eq_none {c : Char} (hc : isWordStart c = true ∨ c.isDigit = true ∨ c = '\'')
    (w : List Char) : symbolLexemes.find? (·.2.toList = c :: w) = none := by
  rw [List.find?_eq_none]
  intro l hl heq
  have hhead : c ∈ l.2.toList.head? := by rw [of_decide_eq_true heq]; rfl
  obtain ⟨hw, hd, hq⟩ := symbol_head l hl c hhead
  rcases hc with h | h | h
  · exact absurd h (by rw [hw]; decide)
  · exact absurd h (by rw [hd]; decide)
  · exact hq h

theorem isWordStart_of_isDigit {c : Char} (hc : c.isDigit = true) : isWordStart c = false := by
  cases hw : isWordStart c
  · rfl
  · exact absurd hc (by rw [isDigit_of_isWordStart hw]; decide)

theorem grammarToken?_of_isWordStart {c : Char} (hc : isWordStart c = true) (w : List Char)
    (e : Bool) :
    grammarToken? (c :: w) e =
      if w.all isWordChar then
        some ((TokenKind.ofKeyword? (String.ofList (c :: w))).getD .identifier,
          String.ofList (c :: w))
      else none := by
  have hd := isDigit_of_isWordStart hc
  have hq : c ≠ '\'' := by
    rintro rfl
    exact absurd hc (by decide)
  by_cases hw : w.all isWordChar
  · simp [grammarToken?, hc, hw]
  · simp [grammarToken?, hc, hw, hd, hq, find?_symbol_eq_none (.inl hc)]

theorem grammarToken?_of_isDigit {c : Char} (hc : c.isDigit = true) (w : List Char) (e : Bool) :
    grammarToken? (c :: w) e =
      if w.all Char.isDigit then some (.number, String.ofList (c :: w)) else none := by
  have hw := isWordStart_of_isDigit hc
  have hq : c ≠ '\'' := by
    rintro rfl
    exact absurd hc (by decide)
  by_cases hall : w.all Char.isDigit
  · simp [grammarToken?, hc, hw, hall]
  · simp [grammarToken?, hc, hw, hall, hq, find?_symbol_eq_none (.inr (.inl hc))]

theorem grammarToken?_quote (w : List Char) (e : Bool) :
    grammarToken? ('\'' :: w) e =
      if w.getLast? = some '\'' ∧ '\'' ∉ w.dropLast then some (.string, String.ofList w.dropLast)
      else if e = true ∧ '\'' ∉ w then some (.unknown, String.ofList w) else none := by
  have hw : isWordStart '\'' = false := by decide
  have hd : '\''.isDigit = false := by decide
  simp only [grammarToken?, hw, hd, Bool.false_and, Bool.false_eq_true, if_false, List.all_cons,
    true_and, find?_symbol_eq_none (.inr (.inr rfl))]

theorem grammarToken?_of_symbolStart {c : Char}
    (hc : isWordStart c = false ∧ c.isDigit = false ∧ c ≠ '\'') (w : List Char) (e : Bool) :
    grammarToken? (c :: w) e = symbolLexemes.find? (·.2.toList = c :: w) := by
  obtain ⟨hw, hd, hq⟩ := hc
  simp [grammarToken?, hw, hd, hq]

theorem grammarToken?_take_of_symbolStart {c : Char}
    (hc : isWordStart c = false ∧ c.isDigit = false ∧ c ≠ '\'') (rest : List Char) {m : Nat}
    (hm : 0 < m) (e : Bool) :
    grammarToken? ((c :: rest).take m) e = symbolLexemes.find? (·.2.toList = (c :: rest).take m) := by
  obtain ⟨k, rfl⟩ : ∃ k, m = k + 1 := ⟨m - 1, by omega⟩
  rw [List.take_succ_cons, grammarToken?_of_symbolStart hc]

/-! ## The longest token, by its first character -/

theorem longestToken_word {c : Char} (hc : isWordStart c = true) (rest : List Char) :
    LongestToken (c :: rest) ((rest.takeWhile isWordChar).length + 1)
      ((TokenKind.ofKeyword? (String.ofList (c :: rest.takeWhile isWordChar))).getD .identifier,
        String.ofList (c :: rest.takeWhile isWordChar)) := by
  have hlen : (rest.takeWhile isWordChar).length ≤ rest.length :=
    (List.takeWhile_prefix _).length_le
  refine ⟨by omega, by simp; omega, fun m hm hle => ?_, .inl ?_⟩
  · -- a longer stretch reaches a character that cannot go on with the word
    obtain ⟨k, rfl⟩ : ∃ k, m = k + 1 := ⟨m - 1, by omega⟩
    simp only [List.length_cons] at hle
    rw [List.take_succ_cons, grammarToken?_of_isWordStart hc,
      all_take_eq_false (by omega) (by omega)]
    simp
  · rw [List.take_succ_cons, take_length_takeWhile, grammarToken?_of_isWordStart hc,
      if_pos List.all_takeWhile]

theorem longestToken_number {c : Char} (hc : c.isDigit = true) (rest : List Char) :
    LongestToken (c :: rest) ((rest.takeWhile Char.isDigit).length + 1)
      (.number, String.ofList (c :: rest.takeWhile Char.isDigit)) := by
  have hlen : (rest.takeWhile Char.isDigit).length ≤ rest.length :=
    (List.takeWhile_prefix _).length_le
  refine ⟨by omega, by simp; omega, fun m hm hle => ?_, .inl ?_⟩
  · -- a longer stretch reaches a character that is no digit
    obtain ⟨k, rfl⟩ : ∃ k, m = k + 1 := ⟨m - 1, by omega⟩
    simp only [List.length_cons] at hle
    rw [List.take_succ_cons, grammarToken?_of_isDigit hc,
      all_take_eq_false (by omega) (by omega)]
    simp
  · rw [List.take_succ_cons, take_length_takeWhile, grammarToken?_of_isDigit hc,
      if_pos List.all_takeWhile]

theorem longestToken_string {body : List Char} (hbody : '\'' ∉ body) (r : List Char) :
    LongestToken ('\'' :: (body ++ '\'' :: r)) (body.length + 2) (.string, String.ofList body) := by
  refine ⟨by omega, by simp, fun m hm hle => ?_, .inl ?_⟩
  · -- a longer stretch holds the closing quote before its last character
    obtain ⟨k, rfl⟩ : ∃ k, m = body.length + 2 + k + 1 := ⟨m - body.length - 3, by omega⟩
    obtain ⟨e, r', rfl⟩ : ∃ e r', r = e :: r' := by
      cases r with
      | nil => simp at hle; omega
      | cons e r' => exact ⟨e, r', rfl⟩
    have htake : ('\'' :: (body ++ '\'' :: e :: r')).take (body.length + 2 + k + 1) =
        '\'' :: (body ++ '\'' :: e :: r'.take k) := by
      rw [show body.length + 2 + k + 1 = body.length + 1 + (k + 1) + 1 by omega,
        List.take_succ_cons, List.take_append, List.take_of_length_le (by omega),
        show body.length + 1 + (k + 1) - body.length = k + 1 + 1 by omega, List.take_succ_cons,
        List.take_succ_cons]
    rw [htake, grammarToken?_quote]
    simp
  · have htake : ('\'' :: (body ++ '\'' :: r)).take (body.length + 2) = '\'' :: (body ++ ['\'']) := by
      rw [List.take_succ_cons, List.take_append, List.take_of_length_le (by omega),
        Nat.add_sub_cancel_left, List.take_succ_cons, List.take_zero]
    rw [htake, grammarToken?_quote, List.dropLast_concat,
      if_pos ⟨List.getLast?_concat, hbody⟩]

theorem longestToken_unterminated {body : List Char} (hbody : '\'' ∉ body) :
    LongestToken ('\'' :: body) (body.length + 1) (.unknown, String.ofList body) := by
  refine ⟨by omega, by simp, fun m hm hle => by simp at hle; omega, .inl ?_⟩
  -- with no quote after the first, the stretch is no string, and it runs to the end
  have hlast : ¬ (body.getLast? = some '\'' ∧ '\'' ∉ body.dropLast) := by
    rintro ⟨h, -⟩
    obtain ⟨ys, rfl⟩ := List.getLast?_eq_some_iff.1 h
    exact hbody (by simp)
  rw [List.take_of_length_le (by simp), grammarToken?_quote, if_neg hlast, if_pos ⟨by simp, hbody⟩]

theorem longestToken_symbol {c : Char} {rest : List Char} {n : Nat} {l : Lexeme}
    (hc : isWordStart c = false ∧ c.isDigit = false ∧ c ≠ '\'') (hn : 0 < n)
    (hle : n ≤ rest.length + 1)
    (htoken : symbolLexemes.find? (·.2.toList = (c :: rest).take n) = some l)
    (hlonger : ∀ m, n < m → m ≤ rest.length + 1 →
      symbolLexemes.find? (·.2.toList = (c :: rest).take m) = none) :
    LongestToken (c :: rest) n l := by
  refine ⟨hn, by simpa using hle, fun m hm hle' => ?_, .inl ?_⟩
  · rw [grammarToken?_take_of_symbolStart hc rest (by omega)]
    exact hlonger m hm (by simpa using hle')
  · rw [grammarToken?_take_of_symbolStart hc rest hn]
    exact htoken

theorem longestToken_single {c : Char} {l : Lexeme} (rest : List Char)
    (hc : isWordStart c = false ∧ c.isDigit = false ∧ c ≠ '\'')
    (hone : symbolLexemes.find? (·.2.toList = [c]) = some l)
    (hlonger : ∀ d ∈ rest.head?, ∀ w, symbolLexemes.find? (·.2.toList = c :: d :: w) = none) :
    LongestToken (c :: rest) 1 l := by
  refine longestToken_symbol hc (by omega) (by omega) hone fun m hm hle => ?_
  obtain ⟨k, rfl⟩ : ∃ k, m = k + 2 := ⟨m - 2, by omega⟩
  cases rest with
  | nil => simp at hle
  | cons d r =>
    rw [List.take_succ_cons, List.take_succ_cons]
    exact hlonger d rfl _

theorem longestToken_double {c d : Char} {l : Lexeme} (rest : List Char)
    (hc : isWordStart c = false ∧ c.isDigit = false ∧ c ≠ '\'')
    (htwo : symbolLexemes.find? (·.2.toList = [c, d]) = some l)
    (hlonger : ∀ e w, symbolLexemes.find? (·.2.toList = c :: d :: e :: w) = none) :
    LongestToken (c :: d :: rest) 2 l := by
  refine longestToken_symbol hc (by omega) (by simp) htwo fun m hm hle => ?_
  obtain ⟨k, rfl⟩ : ∃ k, m = k + 3 := ⟨m - 3, by omega⟩
  cases rest with
  | nil => simp at hle
  | cons e r =>
    rw [List.take_succ_cons, List.take_succ_cons, List.take_succ_cons]
    exact hlonger e _

theorem longestToken_other {c : Char} (rest : List Char)
    (hnone : ∀ w e, grammarToken? (c :: w) e = none) :
    LongestToken (c :: rest) 1 (.unknown, String.singleton c) := by
  refine ⟨by omega, by simp, fun m hm hle => ?_, .inr ⟨rfl, hnone [] _, rfl⟩⟩
  obtain ⟨k, rfl⟩ : ∃ k, m = k + 1 := ⟨m - 1, by omega⟩
  rw [List.take_succ_cons]
  exact hnone _ _

/-! ## The lexer takes the longest token -/

/-- One step of the lexer takes the longest token at the start of what is left, gives it the
offset it was called with, and leaves the characters after it. -/
theorem readToken_longest (p : Nat) (c : Char) (rest : List Char) :
    ∃ n, LongestToken (c :: rest) n (readToken p c rest).1.lexeme ∧
      (readToken p c rest).1.pos = p ∧ (readToken p c rest).2 = (c :: rest).drop n := by
  by_cases hd : c.isDigit
  · rw [readToken_of_isDigit hd]
    exact ⟨_, longestToken_number hd rest, rfl, (drop_length_takeWhile _ rest).symm⟩
  by_cases hw : isWordStart c
  · rw [readToken_of_isWordStart hw]
    exact ⟨_, longestToken_word hw rest, rfl, (drop_length_takeWhile _ rest).symm⟩
  unfold readToken
  split
  -- the six symbols that stand alone
  case h_1 | h_2 | h_3 | h_4 | h_5 | h_6 =>
    exact ⟨1, longestToken_single rest (by decide) (by simp [symbolLexemes, Token.lexeme])
      (fun _ _ _ => by simp [symbolLexemes]), rfl, rfl⟩
  case h_7 =>
    split
    · exact ⟨2, longestToken_double _ (by decide) (by simp [symbolLexemes, Token.lexeme])
        (fun _ _ => by simp [symbolLexemes]), rfl, rfl⟩
    · exact ⟨2, longestToken_double _ (by decide) (by simp [symbolLexemes, Token.lexeme])
        (fun _ _ => by simp [symbolLexemes]), rfl, rfl⟩
    · rename_i hne heq
      refine ⟨1, longestToken_single rest (by decide) (by simp [symbolLexemes, Token.lexeme])
        fun d hd w => ?_, rfl, rfl⟩
      -- what follows `<` is neither `>` nor `=`
      obtain ⟨r, rfl⟩ : ∃ r, rest = d :: r := by
        cases rest with
        | nil => cases hd
        | cons d' r => exact ⟨r, by cases hd; rfl⟩
      have h1 : d ≠ '>' := fun h => hne r (by rw [h])
      have h2 : d ≠ '=' := fun h => heq r (by rw [h])
      simp [symbolLexemes, Ne.symm h1, Ne.symm h2]
  case h_8 =>
    split
    · exact ⟨2, longestToken_double _ (by decide) (by simp [symbolLexemes, Token.lexeme])
        (fun _ _ => by simp [symbolLexemes]), rfl, rfl⟩
    · rename_i hne
      refine ⟨1, longestToken_single rest (by decide) (by simp [symbolLexemes, Token.lexeme])
        fun d hd w => ?_, rfl, rfl⟩
      -- what follows `>` is not `=`
      obtain ⟨r, rfl⟩ : ∃ r, rest = d :: r := by
        cases rest with
        | nil => cases hd
        | cons d' r => exact ⟨r, by cases hd; rfl⟩
      have h1 : d ≠ '=' := fun h => hne r (by rw [h])
      simp [symbolLexemes, Ne.symm h1]
  case h_9 =>
    have hbody : '\'' ∉ rest.takeWhile (· ≠ '\'') := by
      intro h
      simpa using List.all_eq_true.1 List.all_takeWhile _ h
    split
    · rename_i q r hdrop
      -- the first quote after the opening one closes the string
      have hq : q = '\'' := by
        have := List.head_dropWhile_not (fun x => decide (x ≠ '\'')) (l := rest)
          (by rw [hdrop]; exact List.cons_ne_nil _ _)
        simp only [hdrop, List.head_cons] at this
        simpa using this
      subst hq
      have hrest := List.takeWhile_append_dropWhile (p := fun x => decide (x ≠ '\'')) (l := rest)
      rw [hdrop] at hrest
      generalize rest.takeWhile (· ≠ '\'') = body at hrest hbody ⊢
      subst hrest
      refine ⟨body.length + 2, longestToken_string hbody r, rfl, ?_⟩
      simp [List.drop_append]
    · rename_i hdrop
      -- no closing quote: the token runs to the end
      have hall := forall_of_dropWhile_eq_nil hdrop
      have hnoq : '\'' ∉ rest := fun h => by simpa using hall _ h
      have htake : rest.takeWhile (· ≠ '\'') = rest := by
        have hrest := List.takeWhile_append_dropWhile (p := fun x => decide (x ≠ '\'')) (l := rest)
        rwa [hdrop, List.append_nil] at hrest
      refine ⟨rest.length + 1, ?_, rfl, by simp⟩
      rw [htake]
      exact longestToken_unterminated hnoq
  case h_10 =>
    rename_i h1 h2 h3 h4 h5 h6 h7 h8 h9
    rw [if_neg hd, if_neg hw]
    refine ⟨1, longestToken_other rest fun w e => ?_, rfl, rfl⟩
    rw [grammarToken?_of_symbolStart ⟨by simpa using hw, by simpa using hd, h9⟩,
      List.find?_eq_none]
    -- the character starts no symbol
    intro l hl heq
    have hhead : c ∈ l.2.toList.head? := by rw [of_decide_eq_true heq]; rfl
    have := symbol_head_mem l hl c hhead
    simp only [List.mem_cons, List.not_mem_nil, or_false] at this
    rcases this with h | h | h | h | h | h | h | h <;> simp_all

/-! ## One tokenization for every text -/

theorem LongestToken.unique {cs : List Char} {n n' : Nat} {l l' : Lexeme}
    (h : LongestToken cs n l) (h' : LongestToken cs n' l') : n = n' ∧ l = l' := by
  obtain ⟨hpos, hle, hlonger, htok⟩ := h
  obtain ⟨hpos', hle', hlonger', htok'⟩ := h'
  have hn : n = n' := by
    rcases Nat.lt_trichotomy n n' with hlt | heq | hgt
    · rcases htok' with h' | ⟨rfl, -, -⟩
      · rw [hlonger n' hlt hle'] at h'
        cases h'
      · omega
    · exact heq
    · rcases htok with h | ⟨rfl, -, -⟩
      · rw [hlonger' n hgt hle] at h
        cases h
      · omega
  subst hn
  refine ⟨rfl, ?_⟩
  rcases htok with h | ⟨rfl, hnone, rfl⟩ <;> rcases htok' with h' | ⟨hn', hnone', rfl⟩
  · exact Option.some.inj (h.symm.trans h')
  · subst hn'
    rw [hnone'] at h
    cases h
  · rw [hnone] at h'
    cases h'
  · rfl

theorem grammarToken?_kind_ne_eof {w : List Char} {e : Bool} {l : Lexeme}
    (h : grammarToken? w e = some l) : l.1 ≠ .eof := by
  unfold grammarToken? at h
  split at h
  · cases h
  · split_ifs at h
    · cases h
      have hkinds : ∀ k ∈ TokenKind.identifier :: keywordKinds, k ≠ .eof := by decide
      exact hkinds _ (word_kind_mem _)
    all_goals try (cases h; simp)
    -- a symbol
    have hkinds : ∀ l ∈ symbolLexemes, l.1 ≠ .eof := by decide
    exact hkinds l (List.mem_of_find?_eq_some h)

theorem LongestToken.kind_ne_eof {cs : List Char} {n : Nat} {l : Lexeme}
    (h : LongestToken cs n l) : l.1 ≠ .eof := by
  rcases h.2.2.2 with h | ⟨-, -, rfl⟩
  · exact grammarToken?_kind_ne_eof h
  · simp

theorem Token.eq_of_lexeme {t t' : Token} (hl : t.lexeme = t'.lexeme) (hp : t.pos = t'.pos) :
    t = t' := by
  cases t
  cases t'
  simp_all [Token.lexeme]

theorem lexFrom_of_blank {pos : Nat} {blanks : List Char}
    (h : ∀ b ∈ blanks, Text.isBlank b = true) : lexFrom pos blanks = [Token.eof (pos + blanks.length)] := by
  have hnil : blanks.dropWhile Text.isBlank = [] := by
    have h' : (blanks ++ []).dropWhile Text.isBlank = ([] : List Char).dropWhile Text.isBlank :=
      List.dropWhile_append_of_pos h
    simpa using h'
  rw [lexFrom]
  split
  · rfl
  · rename_i c more h'
    rw [hnil] at h'
    cases h'

theorem lexFrom_append_cons {pos : Nat} {blanks : List Char} {c : Char} {rest : List Char}
    (hb : ∀ b ∈ blanks, Text.isBlank b = true) (hc : Text.isBlank c = false) :
    lexFrom pos (blanks ++ c :: rest) =
      (readToken (pos + blanks.length) c rest).1 ::
        lexFrom (pos + blanks.length + (rest.length + 1 - (readToken (pos + blanks.length) c rest).2.length))
          (readToken (pos + blanks.length) c rest).2 := by
  have hdrop : (blanks ++ c :: rest).dropWhile Text.isBlank = c :: rest := by
    rw [List.dropWhile_append_of_pos hb, List.dropWhile_cons_of_neg (by simp [hc])]
  rw [lexFrom]
  split
  · rename_i h'
    rw [hdrop] at h'
    cases h'
  · rename_i c' more h'
    rw [hdrop] at h'
    obtain ⟨rfl, rfl⟩ := List.cons_eq_cons.1 h'
    have hstart : pos + ((blanks ++ c :: rest).length - (rest.length + 1)) = pos + blanks.length := by
      simp
    rw [hstart]

theorem lexFrom_tokenization (pos : Nat) (cs : List Char) : Tokenization pos cs (lexFrom pos cs) := by
  fun_induction lexFrom pos cs with
  | case1 pos cs h => exact .finish (forall_of_dropWhile_eq_nil h)
  | case2 pos cs c more h start step ih =>
    obtain ⟨n, hlong, hpos, hrest⟩ := readToken_longest start c more
    have hsplit := List.takeWhile_append_dropWhile (p := Text.isBlank) (l := cs)
    rw [h] at hsplit
    have hlen : cs.length = (cs.takeWhile Text.isBlank).length + (more.length + 1) := by
      have := congrArg List.length hsplit
      simp only [List.length_append, List.length_cons] at this
      omega
    have hstart : start = pos + (cs.takeWhile Text.isBlank).length := by
      simp only [start]
      omega
    have hn : n ≤ more.length + 1 := by simpa using hlong.2.1
    have hstep : step.2.length = more.length + 1 - n := by
      simp only [step, hrest, List.length_drop, List.length_cons]
    have hc : Text.isBlank c = false := by
      have := List.head_dropWhile_not Text.isBlank (l := cs) (by rw [h]; exact List.cons_ne_nil _ _)
      simpa [h] using this
    have key : Tokenization pos (cs.takeWhile Text.isBlank ++ c :: more)
        (step.1 :: lexFrom (start + (more.length + 1 - step.2.length)) step.2) := by
      refine .token (fun b hb => List.all_eq_true.1 List.all_takeWhile b hb) hc hlong
        (hpos.trans hstart) ?_
      -- the next token starts where this one ends
      have hoff : start + (more.length + 1 - step.2.length) =
          pos + (cs.takeWhile Text.isBlank).length + n := by
        omega
      rw [← hoff, ← hrest]
      exact ih
    rwa [hsplit] at key

theorem Tokenization.eq_lexFrom {pos : Nat} {cs : List Char} {ts : List Token}
    (h : Tokenization pos cs ts) : ts = lexFrom pos cs := by
  induction h with
  | finish skipped => exact (lexFrom_of_blank skipped).symm
  | @token pos blanks c rest n t ts skipped start longest offset next ih =>
    rw [lexFrom_append_cons skipped start]
    obtain ⟨n₀, hlong₀, hpos₀, hrest₀⟩ := readToken_longest (pos + blanks.length) c rest
    obtain ⟨rfl, hlex⟩ := longest.unique hlong₀
    have hn : n ≤ rest.length + 1 := by simpa using longest.2.1
    have ht : t = (readToken (pos + blanks.length) c rest).1 :=
      Token.eq_of_lexeme hlex (offset.trans hpos₀.symm)
    have hoff : pos + blanks.length + (rest.length + 1 -
        (readToken (pos + blanks.length) c rest).2.length) = pos + blanks.length + n := by
      rw [hrest₀, List.length_drop, List.length_cons]
      omega
    rw [ht, ih, hoff, hrest₀]

theorem Tokenization.getLast? {pos : Nat} {cs : List Char} {ts : List Token}
    (h : Tokenization pos cs ts) : ts.getLast? = some (Token.eof (pos + cs.length)) := by
  induction h with
  | finish => rfl
  | @token pos blanks c rest n t ts skipped start longest offset next ih =>
    have hn : n ≤ rest.length + 1 := by simpa using longest.2.1
    rw [List.getLast?_cons, ih]
    simp only [Option.getD_some, List.length_drop, List.length_cons, List.length_append]
    congr 2
    omega

theorem Tokenization.kind_ne_eof {pos : Nat} {cs : List Char} {ts : List Token}
    (h : Tokenization pos cs ts) : ∀ t ∈ ts.dropLast, t.kind ≠ .eof := by
  induction h with
  | finish => simp
  | @token pos blanks c rest n t ts skipped start longest offset next ih =>
    have hne : ts ≠ [] := by
      intro hnil
      have := next.getLast?
      rw [hnil] at this
      cases this
    intro u hu
    rw [List.dropLast_cons_of_ne_nil hne, List.mem_cons] at hu
    rcases hu with rfl | hu
    · exact longest.kind_ne_eof
    · exact ih u hu

/-- The lexer is the longest-match tokenizer: for every text, its tokens are the text's
tokenization and no other list is, and they end with the only EOF, whose text is empty, at the
offset just past the text. -/
theorem lex_longest_match (s : String) :
    (∀ ts, Tokenization 0 s.toList ts ↔ ts = lex s) ∧
      (lex s).getLast? = some (Token.eof s.length) ∧ ∀ t ∈ (lex s).dropLast, t.kind ≠ .eof := by
  have htok : Tokenization 0 s.toList (lex s) := lexFrom_tokenization 0 s.toList
  refine ⟨fun ts => ⟨fun h => h.eq_lexFrom, fun h => h ▸ htok⟩, ?_, htok.kind_ne_eof⟩
  rw [htok.getLast?, Nat.zero_add, String.length_toList]

end TinySql.Sql
