import TinySql.Proofs.LongestMatch

/-!
Lexing a text cut at a blank. No token is read across a blank except a string left open before
it, which runs to the end of the text. An open string is the same as an odd number of quotes:
every other token holds no quote, or two for a closed string. So when the tokens of `a` do not
end with an open string, the tokens of `a`, a blank and `b` are those of `a` without their end of
input, then those of `b` moved on by the length of `a` and the blank. This is what lets a shell
join the lines of a statement with a space.
-/

namespace TinySql.Sql

/-! ## Blanks stop every token -/

theorem toNat_of_isBlank {c : Char} (h : Text.isBlank c = true) :
    (9 ≤ c.toNat ∧ c.toNat ≤ 13) ∨ c.toNat = 32 ∨ 0x85 ≤ c.toNat := by
  obtain ⟨r, hr, h₁, h₂⟩ := Text.inRanges_iff.1 h
  simp only [Text.blankRanges, List.mem_cons, List.not_mem_nil, or_false] at hr
  rcases hr with rfl | rfl | rfl | rfl | rfl | rfl | rfl | rfl | rfl | rfl <;> omega

theorem toNat_of_isAlphanum {c : Char} (h : c.isAlphanum = true) :
    (48 ≤ c.toNat ∧ c.toNat ≤ 57) ∨ (65 ≤ c.toNat ∧ c.toNat ≤ 90) ∨
      (97 ≤ c.toNat ∧ c.toNat ≤ 122) := by
  -- `delta`, not `simp`, opens the predicates: it makes no equation lemmas for them
  delta Char.isAlphanum Char.isAlpha Char.isUpper Char.isLower Char.isDigit at h
  simp [UInt32.le_iff_toNat_le] at h
  omega

theorem blank_alphanumeric_disjoint :
    ∀ r ∈ Text.blankRanges, ∀ s ∈ Text.alphanumericRanges, r.2 < s.1 ∨ s.2 < r.1 := by
  decide +kernel

theorem isAlphanumeric_of_isBlank {c : Char} (h : Text.isBlank c = true) :
    Text.isAlphanumeric c = false := by
  unfold Text.isAlphanumeric
  split
  · cases ha : c.isAlphanum
    · rfl
    · have := toNat_of_isAlphanum ha
      have := toNat_of_isBlank h
      omega
  · cases ha : Text.inRanges Text.alphanumericRanges c.toNat
    · rfl
    · obtain ⟨r, hr, h₁, h₂⟩ := Text.inRanges_iff.1 h
      obtain ⟨s, hs, h₃, h₄⟩ := Text.inRanges_iff.1 ha
      have := blank_alphanumeric_disjoint r hr s hs
      omega

theorem isWordChar_of_isBlank {c : Char} (h : Text.isBlank c = true) : isWordChar c = false := by
  simp only [isWordChar, isAlphanumeric_of_isBlank h, Bool.false_or, decide_eq_false_iff_not]
  rintro rfl
  revert h
  decide

theorem isDigit_of_isBlank {c : Char} (h : Text.isBlank c = true) : c.isDigit = false := by
  cases hd : c.isDigit
  · rfl
  · rw [isBlank_of_isDigit hd] at h
    cases h

theorem ne_of_isBlank {c d : Char} (h : Text.isBlank c = true) (hd : Text.isBlank d = false) :
    c ≠ d := by
  rintro rfl
  rw [h] at hd
  cases hd

/-! ## Scanning a run up to a point -/

theorem takeWhile_dropWhile_append_stop {p : Char → Bool} {w : Char} (hw : p w = false)
    (l r : List Char) :
    (l ++ w :: r).takeWhile p = l.takeWhile p ∧ (l ++ w :: r).dropWhile p = l.dropWhile p ++ w :: r := by
  induction l with
  | nil => simp [hw]
  | cons a l ih =>
    cases ha : p a
    · simp [ha]
    · simp [ha, ih]

theorem takeWhile_dropWhile_append_of_mem {p : Char → Bool} {a : Char} {l : List Char}
    (ha : a ∈ l) (hp : p a = false) (r : List Char) :
    (l ++ r).takeWhile p = l.takeWhile p ∧ (l ++ r).dropWhile p = l.dropWhile p ++ r := by
  induction l with
  | nil => cases ha
  | cons b l ih =>
    cases hb : p b
    · simp [hb]
    · have ha' : a ∈ l := by
        rcases List.mem_cons.1 ha with rfl | ha'
        · rw [hp] at hb
          cases hb
        · exact ha'
      simp [hb, ih ha']

theorem count_takeWhile {p : Char → Bool} {a : Char} (hp : p a = false) (l : List Char) :
    (l.takeWhile p).count a = 0 := by
  refine List.count_eq_zero.2 fun h => ?_
  rw [List.all_eq_true.1 List.all_takeWhile a h] at hp
  cases hp

theorem count_dropWhile {p : Char → Bool} {a : Char} (hp : p a = false) (l : List Char) :
    l.count a = (l.dropWhile p).count a := by
  conv => lhs; rw [← List.takeWhile_append_dropWhile (p := p) (l := l)]
  rw [List.count_append, count_takeWhile hp, Nat.zero_add]

/-! ## One token across a blank -/

theorem readToken_open_quote {more : List Char} (h : '\'' ∉ more) (p : Nat) :
    readToken p '\'' more = (⟨.unknown, String.ofList more, p⟩, []) := by
  have hall : ∀ d ∈ more, decide (d ≠ '\'') = true := by
    intro d hd
    simp only [decide_eq_true_eq]
    rintro rfl
    exact h hd
  have htake : (more ++ []).takeWhile (fun d => decide (d ≠ '\'')) = more ++ [] :=
    List.takeWhile_append_of_pos hall
  have hdrop : (more ++ []).dropWhile (fun d => decide (d ≠ '\'')) = [] :=
    List.dropWhile_append_of_pos hall
  simp only [List.append_nil] at htake hdrop
  unfold readToken
  rw [htake, hdrop]
  rfl

theorem readToken_append_blank {w : Char} (hw : Text.isBlank w = true) {c : Char}
    {more : List Char} (hq : c = '\'' → '\'' ∈ more) (p : Nat) (rest : List Char) :
    readToken p c (more ++ w :: rest) =
      ((readToken p c more).1, (readToken p c more).2 ++ w :: rest) := by
  have hgt : w ≠ '>' := ne_of_isBlank hw (by decide)
  have heq : w ≠ '=' := ne_of_isBlank hw (by decide)
  unfold readToken
  split
  -- the six symbols that stand alone
  any_goals rfl
  -- `<` and `>` look at the next character, which the blank does not continue
  case h_7 | h_8 =>
    cases more with
    | nil => split <;> simp_all
    | cons m ms => split <;> simp_all
  case h_9 =>
    have hsplit := takeWhile_dropWhile_append_of_mem (hq rfl)
      (p := fun d => decide (d ≠ '\'')) (by simp) (w :: rest)
    simp only [hsplit]
    -- the closing quote lies in `more`, so what is left of it is not empty
    cases hd : more.dropWhile (fun d => decide (d ≠ '\'')) with
    | nil =>
      have := forall_of_dropWhile_eq_nil hd _ (hq rfl)
      simp at this
    | cons q r => rfl
  case h_10 =>
    split_ifs
    · obtain ⟨ht, hd⟩ := takeWhile_dropWhile_append_stop (isDigit_of_isBlank hw) more rest
      rw [ht, hd]
    · obtain ⟨ht, hd⟩ := takeWhile_dropWhile_append_stop (isWordChar_of_isBlank hw) more rest
      rw [ht, hd]
    · rfl

theorem count_readToken {c : Char} {more : List Char} (hq : c = '\'' → '\'' ∈ more) (p : Nat) :
    (c :: more).count '\'' = (readToken p c more).2.count '\'' + if c = '\'' then 2 else 0 := by
  unfold readToken
  split
  case h_1 | h_2 | h_3 | h_4 | h_5 | h_6 => simp
  case h_7 | h_8 =>
    cases more with
    | nil => simp
    | cons m ms => split <;> simp_all
  case h_9 =>
    cases hd : more.dropWhile (fun d => decide (d ≠ '\'')) with
    | nil =>
      have := forall_of_dropWhile_eq_nil hd _ (hq rfl)
      simp at this
    | cons q r =>
      -- the first quote after the opening one closes the string
      have hq' : q = '\'' := by
        have := List.head_dropWhile_not (fun d => decide (d ≠ '\'')) (l := more)
          (by rw [hd]; exact List.cons_ne_nil _ _)
        simp only [hd, List.head_cons] at this
        simpa using this
      have hcount := count_dropWhile (p := fun d => decide (d ≠ '\'')) (a := '\'') (by simp) more
      rw [hd, hq', List.count_cons_self] at hcount
      simp only [List.count_cons_self, hcount, if_true]
  case h_10 =>
    rename_i hquote
    have hne : (c == '\'') = false := by simpa using hquote
    split_ifs
    · simp [List.count_cons, hne, ← count_dropWhile (p := Char.isDigit) (a := '\'') rfl more]
    · simp [List.count_cons, hne, ← count_dropWhile (p := isWordChar) (a := '\'') rfl more]
    · simp [List.count_cons, hne]

/-! ## Offsets and leading blanks -/

/-- The token with its offset moved on by `k`. -/
def Token.shift (k : Nat) (t : Token) : Token := { t with pos := t.pos + k }

@[simp] theorem Token.kind_shift (k : Nat) (t : Token) : (t.shift k).kind = t.kind := rfl

@[simp] theorem Token.pos_shift (k : Nat) (t : Token) : (t.shift k).pos = t.pos + k := rfl

theorem Tokenization.shift {pos : Nat} {cs : List Char} {ts : List Token}
    (h : Tokenization pos cs ts) (k : Nat) : Tokenization (pos + k) cs (ts.map (Token.shift k)) := by
  induction h with
  | @finish pos blanks skipped =>
    have hend : Tokenization (pos + k) blanks [Token.eof (pos + k + blanks.length)] :=
      .finish skipped
    rwa [Nat.add_right_comm] at hend
  | @token pos blanks c rest n t ts skipped start longest offset next ih =>
    refine .token skipped start longest (by simp [offset, Nat.add_right_comm]) ?_
    -- the offset after the token, moved on by `k`
    have hnext : pos + blanks.length + n + k = pos + k + blanks.length + n := by omega
    rwa [hnext] at ih

theorem lexFrom_shift (k p : Nat) (cs : List Char) :
    lexFrom (p + k) cs = (lexFrom p cs).map (Token.shift k) :=
  ((lexFrom_tokenization p cs).shift k).eq_lexFrom.symm

theorem Tokenization.blanks_append {bl : List Char} (hbl : ∀ b ∈ bl, Text.isBlank b = true)
    {pos : Nat} {cs : List Char} {ts : List Token} (h : Tokenization (pos + bl.length) cs ts) :
    Tokenization pos (bl ++ cs) ts := by
  have hall : ∀ {l : List Char}, (∀ b ∈ l, Text.isBlank b = true) →
      ∀ b ∈ bl ++ l, Text.isBlank b = true := by
    intro l hl b hb
    rcases List.mem_append.1 hb with hb | hb
    · exact hbl b hb
    · exact hl b hb
  cases h with
  | finish skipped =>
    have hend : Tokenization pos (bl ++ cs) [Token.eof (pos + (bl ++ cs).length)] :=
      .finish (hall skipped)
    rwa [List.length_append, ← Nat.add_assoc] at hend
  | @token _ blanks c rest n t ts skipped start longest offset next =>
    rw [← List.append_assoc]
    refine .token (hall skipped) start longest (by rw [offset, List.length_append, Nat.add_assoc]) ?_
    rwa [List.length_append, ← Nat.add_assoc]

theorem lexFrom_blanks_append {bl : List Char} (hbl : ∀ b ∈ bl, Text.isBlank b = true) (p : Nat)
    (cs : List Char) : lexFrom p (bl ++ cs) = lexFrom (p + bl.length) cs :=
  ((lexFrom_tokenization _ cs).blanks_append hbl).eq_lexFrom.symm

theorem lexFrom_ne_nil (p : Nat) (cs : List Char) : lexFrom p cs ≠ [] := by
  intro h
  have := (lexFrom_tokenization p cs).getLast?
  rw [h] at this
  cases this

/-! ## The whole text across a blank -/

theorem count_of_blanks {bl : List Char} (hbl : ∀ b ∈ bl, Text.isBlank b = true) :
    bl.count '\'' = 0 :=
  List.count_eq_zero.2 fun h => absurd (hbl _ h) (by decide)

theorem exists_blanks_of_dropWhile {cs more : List Char} {c : Char}
    (h : cs.dropWhile Text.isBlank = c :: more) :
    ∃ bl, (∀ b ∈ bl, Text.isBlank b = true) ∧ cs = bl ++ c :: more ∧ Text.isBlank c = false := by
  refine ⟨cs.takeWhile Text.isBlank, fun b hb => List.all_eq_true.1 List.all_takeWhile b hb,
    by rw [← h, List.takeWhile_append_dropWhile], ?_⟩
  have := List.head_dropWhile_not Text.isBlank (l := cs) (by rw [h]; simp)
  simpa [h] using this

/-- A text with an even number of quotes, a blank, then any text: the tokens are those of the
first text without its end of input, then those of the second. -/
theorem lexFrom_append_blank {w : Char} (hw : Text.isBlank w = true) (rest : List Char)
    (p : Nat) (cs : List Char) (heven : cs.count '\'' % 2 = 0) :
    lexFrom p (cs ++ w :: rest) = (lexFrom p cs).dropLast ++ lexFrom (p + cs.length + 1) rest := by
  fun_induction lexFrom p cs with
  | case1 p cs h =>
    -- only blanks: they and `w` are skipped
    have hbl : ∀ b ∈ cs ++ [w], Text.isBlank b = true := by
      intro b hb
      rcases List.mem_append.1 hb with hb | hb
      · exact forall_of_dropWhile_eq_nil h b hb
      · rw [List.mem_singleton.1 hb]
        exact hw
    rw [← List.singleton_append, ← List.append_assoc, lexFrom_blanks_append hbl]
    simp [Nat.add_assoc]
  | case2 p cs c more h start step ih =>
    obtain ⟨bl, hbl, rfl, hc⟩ := exists_blanks_of_dropWhile h
    have hstart : start = p + bl.length := by
      simp only [start, List.length_append, List.length_cons]
      omega
    have hcount : (c :: more).count '\'' % 2 = 0 := by
      rwa [List.count_append, count_of_blanks hbl, Nat.zero_add] at heven
    -- the token is no open string: an open string leaves one quote
    have hq : c = '\'' → '\'' ∈ more := by
      rintro rfl
      by_cases hm : '\'' ∈ more
      · exact hm
      · rw [List.count_cons_self, List.count_eq_zero.2 hm] at hcount
        omega
    have hread : readToken start c (more ++ w :: rest) = (step.1, step.2 ++ w :: rest) :=
      readToken_append_blank hw hq start rest
    have heven' : step.2.count '\'' % 2 = 0 := by
      have hcnt : (c :: more).count '\'' = step.2.count '\'' + if c = '\'' then 2 else 0 :=
        count_readToken hq start
      split_ifs at hcnt <;> omega
    have hle : step.2.length ≤ more.length := readToken_rest_length_le start c more
    have hnext : start + ((more ++ w :: rest).length + 1 - (step.2 ++ w :: rest).length) =
        start + (more.length + 1 - step.2.length) := by
      simp only [List.length_append, List.length_cons]
      omega
    have hend : start + (more.length + 1 - step.2.length) + step.2.length =
        p + (bl ++ c :: more).length := by
      simp only [List.length_append, List.length_cons]
      omega
    rw [List.append_assoc, List.cons_append, lexFrom_append_cons hbl hc, ← hstart, hread,
      hnext, ih heven', List.dropLast_cons_of_ne_nil (lexFrom_ne_nil _ _), List.cons_append, hend]

theorem lexFrom_open_string (p : Nat) (cs : List Char) (hodd : cs.count '\'' % 2 = 1) :
    ∃ t, (lexFrom p cs).dropLast.getLast? = some t ∧ t.kind = .unknown ∧ p ≤ t.pos ∧
      cs[t.pos - p]? = some '\'' := by
  fun_induction lexFrom p cs with
  | case1 p cs h =>
    rw [count_of_blanks (forall_of_dropWhile_eq_nil h)] at hodd
    cases hodd
  | case2 p cs c more h start step ih =>
    obtain ⟨bl, hbl, rfl, hc⟩ := exists_blanks_of_dropWhile h
    have hstart : start = p + bl.length := by
      simp only [start, List.length_append, List.length_cons]
      omega
    have hcount : (c :: more).count '\'' % 2 = 1 := by
      rwa [List.count_append, count_of_blanks hbl, Nat.zero_add] at hodd
    obtain ⟨n, hlong, -, hrest⟩ := readToken_longest start c more
    have hn : n ≤ more.length + 1 := by simpa using hlong.2.1
    by_cases hq : c = '\'' → '\'' ∈ more
    · -- a closed token keeps the parity, so the open string comes later
      have hcnt : (c :: more).count '\'' = step.2.count '\'' + if c = '\'' then 2 else 0 :=
        count_readToken hq start
      have hodd' : step.2.count '\'' % 2 = 1 := by
        split_ifs at hcnt <;> omega
      obtain ⟨t, ht, hk, hle, hat⟩ := ih hodd'
      have hstep : step.2 = (c :: more).drop n := hrest
      have hsplit : bl ++ c :: more = (bl ++ (c :: more).take n) ++ step.2 := by
        rw [hstep, List.append_assoc, List.take_append_drop]
      have hlen : (bl ++ (c :: more).take n).length = bl.length + n := by
        simp only [List.length_append, List.length_take, List.length_cons]
        omega
      have hoff : start + (more.length + 1 - step.2.length) = p + bl.length + n := by
        rw [hstep, hstart]
        simp only [List.length_drop, List.length_cons]
        omega
      refine ⟨t, ?_, hk, by omega, ?_⟩
      · rw [List.dropLast_cons_of_ne_nil (lexFrom_ne_nil _ _), List.getLast?_cons, ht]
        rfl
      · rw [hsplit, List.getElem?_append_right (by omega), hlen]
        rw [hoff] at hle hat
        rw [← hat]
        congr 1
        omega
    · -- the token is a quote with no other after it
      obtain ⟨rfl, hno⟩ := Classical.not_imp.1 hq
      have hstep : step = (⟨.unknown, String.ofList more, start⟩, []) := readToken_open_quote hno start
      refine ⟨step.1, ?_, by rw [hstep], by simp [hstep, hstart], ?_⟩
      · rw [hstep, lexFrom_of_blank (List.forall_mem_nil _)]
        rfl
      · rw [hstep, hstart]
        simp

/-- Lexing distributes over texts joined by a blank. When the tokens of `a` do not end with an
open string, an UNKNOWN token whose first character is a quote, the tokens of `a`, a blank `w`
and `b` are the tokens of `a` without their end of input, then the tokens of `b` with every
offset moved on by the length of `a` and the blank; and the same holds of the tokens kept for
parsing. -/
theorem lex_append_blank (a b : String) (w : Char) (hw : Text.isBlank w = true)
    (ha : ∀ t, (lex a).dropLast.getLast? = some t → t.kind = .unknown →
      a.toList[t.pos]? ≠ some '\'') :
    lex (a ++ String.singleton w ++ b) =
        (lex a).dropLast ++ (lex b).map (Token.shift (a.length + 1)) ∧
      tokenize (a ++ String.singleton w ++ b) =
        (tokenize a).dropLast ++ (tokenize b).map (Token.shift (a.length + 1)) := by
  -- no open string in `a` is the same as an even number of quotes
  have heven : a.toList.count '\'' % 2 = 0 := by
    rcases Nat.mod_two_eq_zero_or_one (a.toList.count '\'') with h | h
    · exact h
    · obtain ⟨t, ht, hk, -, hq⟩ := lexFrom_open_string 0 a.toList h
      exact absurd (by simpa using hq) (ha t ht hk)
  have hlex : lex (a ++ String.singleton w ++ b) =
      (lex a).dropLast ++ (lex b).map (Token.shift (a.length + 1)) := by
    have hchars : (a ++ String.singleton w ++ b).toList = a.toList ++ w :: b.toList := by
      simp [String.toList_append]
    simp only [lex]
    rw [hchars, lexFrom_append_blank hw b.toList 0 a.toList heven, Nat.add_assoc, lexFrom_shift,
      String.length_toList]
  refine ⟨hlex, ?_⟩
  -- the end of input of `a`, which tokenizing keeps, is what is dropped
  obtain ⟨ts, hts⟩ := List.getLast?_eq_some_iff.1 (lex_longest_match a).2.1
  have hkind : (fun t : Token => decide (t.kind ≠ .unknown)) ∘ Token.shift (a.length + 1) =
      fun t => decide (t.kind ≠ .unknown) := rfl
  rw [tokenize, tokenize, tokenize, hlex, hts, List.dropLast_concat, List.filter_append,
    List.filter_append, List.filter_map, hkind]
  simp [Token.eof]

/-- A line ending in `<` joined by a space to a line starting with `=`: the two stay apart, and
the second line's tokens move on by four characters. -/
theorem lex_lines_joined :
    Text.isBlank ' ' = true ∧
      (∀ t, (lex "a <").dropLast.getLast? = some t → t.kind = .unknown →
        "a <".toList[t.pos]? ≠ some '\'') ∧
      (lex ("a <" ++ String.singleton ' ' ++ "= 1") =
          (lex "a <").dropLast ++ (lex "= 1").map (Token.shift ("a <".length + 1)) ∧
        tokenize ("a <" ++ String.singleton ' ' ++ "= 1") =
          (tokenize "a <").dropLast ++ (tokenize "= 1").map (Token.shift ("a <".length + 1))) := by
  have hlast : (lex "a <").dropLast.getLast? = some ⟨.lessThan, "<", 2⟩ := by decide +kernel
  have ha : ∀ t, (lex "a <").dropLast.getLast? = some t → t.kind = .unknown →
      "a <".toList[t.pos]? ≠ some '\'' := by
    intro t ht hk
    rw [hlast, Option.some.injEq] at ht
    rw [← ht] at hk
    cases hk
  exact ⟨by decide, ha, lex_append_blank "a <" "= 1" ' ' (by decide) ha⟩

end TinySql.Sql
