import TinySql.Proofs.Except
import TinySql.Proofs.Grammar

/-!
The parser accepts exactly the grammar. Each parsing function is matched with the relation of
its production twice: it is sound when every success has read a prefix that spells its value,
and complete when it reads every prefix that spells a value and stops right after it. Lists
and the optional WHERE look one token past their end, so their completeness asks that the next
token cannot continue them; in a statement the next token is always a `)`, FROM, WHERE or `;`.

The cursor never moves past an end of input, and no production reads one, so what a
successful parse has read is a run of tokens before the first end of input.
-/

namespace TinySql.Sql

open Grammar

variable {α : Type}

theorem lexeme_eq {t : Token} {k : TokenKind} {x : String} :
    t.lexeme = (k, x) ↔ t.kind = k ∧ t.text = x := by
  simp [Token.lexeme]

theorem advance_cons {t : Token} (h : t.kind ≠ .eof) (ts : List Token) : advance (t :: ts) = ts := by
  simp [advance, h]

theorem eq_current_cons {ts : List Token} (h : (current ts).kind ≠ .eof) :
    ts = current ts :: advance ts := by
  cases ts with
  | nil => simp [current, Token.eof] at h
  | cons t ts =>
    simp only [current] at h
    rw [advance_cons h]
    rfl

theorem expect_eq_ok {k : TokenKind} (hk : k ≠ .eof) {m : String} {ts : List Token} {t : Token}
    {rest : List Token} : expect k m ts = .ok (t, rest) ↔ ts = t :: rest ∧ t.kind = k := by
  unfold expect
  constructor
  · intro h
    split at h
    · rename_i hc
      simp only [Except.ok.injEq, Prod.mk.injEq] at h
      obtain ⟨rfl, rfl⟩ := h
      exact ⟨eq_current_cons (hc ▸ hk), hc⟩
    · cases h
  · rintro ⟨rfl, hkind⟩
    simp [current, hkind, advance_cons (hkind ▸ hk)]

theorem expect_cons {k : TokenKind} (hk : k ≠ .eof) {t : Token} (h : t.kind = k) (m : String)
    (ts : List Token) : expect k m (t :: ts) = .ok (t, ts) :=
  (expect_eq_ok hk).2 ⟨rfl, h⟩

theorem name_eq_ok {m : String} {ts : List Token} {x : String} {rest : List Token} :
    name m ts = .ok (x, rest) ↔ ∃ t, ts = t :: rest ∧ t.lexeme = (.identifier, x) := by
  unfold name
  constructor
  · intro h
    cases he : expect .identifier m ts with
    | error e => simp [he, Except.map] at h
    | ok p =>
      simp only [he, Except.map, Except.ok.injEq, Prod.mk.injEq] at h
      obtain ⟨rfl, rfl⟩ := h
      obtain ⟨hts, hk⟩ := (expect_eq_ok (by decide)).1 he
      exact ⟨p.1, hts, lexeme_eq.2 ⟨hk, rfl⟩⟩
  · rintro ⟨t, rfl, ht⟩
    obtain ⟨hk, rfl⟩ := lexeme_eq.1 ht
    simp [expect_cons (by decide) hk, Except.map]

theorem name_cons {t : Token} (h : t.kind = .identifier) (m : String) (ts : List Token) :
    name m (t :: ts) = .ok (t.text, ts) :=
  name_eq_ok.2 ⟨t, rfl, lexeme_eq.2 ⟨h, rfl⟩⟩

theorem literal_eq_ok {ts : List Token} {x : String} {rest : List Token} :
    literal ts = .ok (x, rest) ↔
      ∃ t, ts = t :: rest ∧ (t.lexeme = (.string, x) ∨ t.lexeme = (.number, x)) := by
  unfold literal
  constructor
  · intro h
    split at h
    · rename_i hk
      simp only [Except.ok.injEq, Prod.mk.injEq] at h
      obtain ⟨rfl, rfl⟩ := h
      exact ⟨current ts, eq_current_cons (by rw [hk]; decide), .inl (lexeme_eq.2 ⟨hk, rfl⟩)⟩
    · rename_i hk
      simp only [Except.ok.injEq, Prod.mk.injEq] at h
      obtain ⟨rfl, rfl⟩ := h
      exact ⟨current ts, eq_current_cons (by rw [hk]; decide), .inr (lexeme_eq.2 ⟨hk, rfl⟩)⟩
    · cases h
  · rintro ⟨t, rfl, ht | ht⟩
    · obtain ⟨hk, rfl⟩ := lexeme_eq.1 ht
      have hadv : advance (t :: rest) = rest := advance_cons (by rw [hk]; decide) rest
      simp [current, hk, hadv]
    · obtain ⟨hk, rfl⟩ := lexeme_eq.1 ht
      have hadv : advance (t :: rest) = rest := advance_cons (by rw [hk]; decide) rest
      simp [current, hk, hadv]

theorem varcharLength_eq_ok {t : Token} {n : UInt64} :
    varcharLength t = .ok n ↔ Text.parseWord? t.text = some n ∧ n ≠ 0 := by
  unfold varcharLength
  split
  · rename_i m hm
    split
    · rename_i h0
      simp only [reduceCtorEq, false_iff, not_and, not_not]
      intro h
      rw [hm, Option.some.injEq] at h
      exact h ▸ h0
    · rename_i h0
      simp only [Except.ok.injEq, hm, Option.some.injEq]
      constructor
      · rintro rfl
        exact ⟨rfl, h0⟩
      · rintro ⟨rfl, -⟩
        rfl
  · rename_i hm
    simp [hm]

theorem varcharLength_of {t : Token} {n : UInt64} (h : Text.parseWord? t.text = some n)
    (hn : n ≠ 0) : varcharLength t = .ok n :=
  varcharLength_eq_ok.2 ⟨h, hn⟩

@[simp] theorem current_cons (t : Token) (ts : List Token) : current (t :: ts) = t := rfl

/-! ## Sound and complete parsers -/

/-- On success the parser has read a prefix of its input that spells its value. -/
def Sound (p : List Token → Except Error (α × List Token)) (R : List Lexeme → α → Prop) : Prop :=
  ∀ {ts : List Token} {a : α} {rest : List Token},
    p ts = .ok (a, rest) → ∃ ws, ts = ws ++ rest ∧ R (ws.map Token.lexeme) a

/-- The parser reads whatever spells a value, and stops right after it, whatever follows. -/
def Complete (p : List Token → Except Error (α × List Token)) (R : List Lexeme → α → Prop) :
    Prop :=
  ∀ {ws : List Token} {a : α} (rest : List Token),
    R (ws.map Token.lexeme) a → p (ws ++ rest) = .ok (a, rest)

theorem name_sound (m : String) : Sound (name m) NameSpelling := by
  intro ts x rest h
  obtain ⟨t, rfl, ht⟩ := name_eq_ok.1 h
  refine ⟨[t], rfl, ?_⟩
  rw [List.map_singleton, ht]
  exact .mk x

theorem name_complete (m : String) : Complete (name m) NameSpelling := by
  intro ws x rest h
  generalize hl : ws.map Token.lexeme = ls at h
  cases h with
  | mk x =>
    obtain ⟨t, rfl, ht⟩ := List.map_eq_singleton_iff.1 hl
    exact name_eq_ok.2 ⟨t, rfl, ht⟩

theorem literal_sound : Sound literal LiteralSpelling := by
  intro ts x rest h
  obtain ⟨t, rfl, ht | ht⟩ := literal_eq_ok.1 h
  · refine ⟨[t], rfl, ?_⟩
    rw [List.map_singleton, ht]
    exact .string x
  · refine ⟨[t], rfl, ?_⟩
    rw [List.map_singleton, ht]
    exact .number x

theorem literal_complete : Complete literal LiteralSpelling := by
  intro ws x rest h
  generalize hl : ws.map Token.lexeme = ls at h
  cases h with
  | string x =>
    obtain ⟨t, rfl, ht⟩ := List.map_eq_singleton_iff.1 hl
    exact literal_eq_ok.2 ⟨t, rfl, .inl ht⟩
  | number x =>
    obtain ⟨t, rfl, ht⟩ := List.map_eq_singleton_iff.1 hl
    exact literal_eq_ok.2 ⟨t, rfl, .inr ht⟩

/-! ## Lists -/

section CommaList

variable {item : List Token → Except Error (α × List Token)} {c : Consumes item}

theorem commaList_of_error {ts : List Token} {e : Error} (h : item ts = .error e) :
    commaList item c ts = .error e := by
  rw [commaList]
  split
  · rename_i e' h'
    rw [h] at h'
    cases h'
    rfl
  · rename_i a rest h'
    rw [h] at h'
    cases h'

theorem commaList_of_comma {ts rest : List Token} {a : α} (h : item ts = .ok (a, rest))
    (hc : (current rest).kind = .comma) :
    commaList item c ts = (commaList item c (advance rest)).map fun p => (a :: p.1, p.2) := by
  rw [commaList]
  split
  · rename_i e h'
    rw [h] at h'
    cases h'
  · rename_i a' rest' h'
    rw [h] at h'
    simp only [Except.ok.injEq, Prod.mk.injEq] at h'
    obtain ⟨rfl, rfl⟩ := h'
    simp only [hc, ↓reduceIte]
    split <;> simp_all [Except.map]

theorem commaList_of_end {ts rest : List Token} {a : α} (h : item ts = .ok (a, rest))
    (hc : (current rest).kind ≠ .comma) : commaList item c ts = .ok ([a], rest) := by
  rw [commaList]
  split
  · rename_i e h'
    rw [h] at h'
    cases h'
  · rename_i a' rest' h'
    rw [h] at h'
    simp only [Except.ok.injEq, Prod.mk.injEq] at h'
    obtain ⟨rfl, rfl⟩ := h'
    simp [hc]

theorem commaList_sound {R : List Lexeme → α → Prop} (hitem : Sound item R) :
    Sound (commaList item c) (ListSpelling R) := by
  -- induction along the recursion of `commaList`: one item, then a comma and the rest
  suffices ∀ ts as rest, commaList item c ts = .ok (as, rest) →
      ∃ ws, ts = ws ++ rest ∧ ListSpelling R (ws.map Token.lexeme) as by
    intro ts as rest h
    exact this ts as rest h
  intro ts
  induction ts using commaList.induct item c with
  | case1 ts e he =>
    intro as rest h
    rw [commaList_of_error he] at h
    cases h
  | case2 ts a rest₁ h₁ _ hc more after hmore ih =>
    intro as rest h
    rw [commaList_of_comma h₁ hc, hmore] at h
    simp only [Except.map, Except.ok.injEq, Prod.mk.injEq] at h
    obtain ⟨rfl, rfl⟩ := h
    obtain ⟨ws₁, rfl, hws₁⟩ := hitem h₁
    obtain ⟨ws₂, hadv, hws₂⟩ := ih more after hmore
    have hrest : rest₁ = current rest₁ :: (ws₂ ++ after) := by
      rw [← hadv]
      exact eq_current_cons (by rw [hc]; decide)
    refine ⟨ws₁ ++ current rest₁ :: ws₂, ?_, ?_⟩
    · calc ws₁ ++ rest₁ = ws₁ ++ current rest₁ :: (ws₂ ++ after) := by rw [← hrest]
        _ = (ws₁ ++ current rest₁ :: ws₂) ++ after := by simp
    have hcomma : (current rest₁).lexeme = (.comma, (current rest₁).text) := lexeme_eq.2 ⟨hc, rfl⟩
    simpa [hcomma] using ListSpelling.cons (current rest₁).text hws₁ hws₂
  | case3 ts a rest₁ h₁ _ hc e he ih =>
    intro as rest h
    rw [commaList_of_comma h₁ hc, he] at h
    cases h
  | case4 ts a rest₁ h₁ _ hc =>
    intro as rest h
    rw [commaList_of_end h₁ hc] at h
    simp only [Except.ok.injEq, Prod.mk.injEq] at h
    obtain ⟨rfl, rfl⟩ := h
    obtain ⟨ws, rfl, hws⟩ := hitem h₁
    exact ⟨ws, rfl, .one hws⟩

theorem commaList_complete {R : List Lexeme → α → Prop} (hitem : Complete item R)
    {ws : List Token} {as : List α} (rest : List Token) (h : ListSpelling R (ws.map Token.lexeme) as)
    (hend : (current rest).kind ≠ .comma) : commaList item c (ws ++ rest) = .ok (as, rest) := by
  generalize hl : ws.map Token.lexeme = ls at h
  induction h generalizing ws with
  | one first =>
    subst hl
    exact commaList_of_end (hitem rest first) hend
  | cons sep first tail ih =>
    obtain ⟨ws₁, ws₂, rfl, h₁, h₂⟩ := List.map_eq_append_iff.1 hl
    obtain ⟨t, ws₃, rfl, ht, h₃⟩ := List.map_eq_cons_iff.1 h₂
    have hk : t.kind = .comma := (lexeme_eq.1 ht).1
    have hitem' := hitem (t :: (ws₃ ++ rest)) (h₁ ▸ first)
    rw [List.append_assoc, List.cons_append, commaList_of_comma hitem' (by simpa [current] using hk),
      advance_cons (by rw [hk]; decide), ih h₃]
    rfl

end CommaList

/-! ## Types, columns, assignments, filters and select lists -/

theorem dataType_sound : Sound dataType TypeSpelling := by
  intro ts d rest h
  unfold dataType at h
  split at h
  · rename_i hk
    simp only [Except.ok.injEq, Prod.mk.injEq] at h
    obtain ⟨rfl, rfl⟩ := h
    refine ⟨[current ts], eq_current_cons (by rw [hk]; decide), ?_⟩
    simpa [Token.lexeme, hk] using TypeSpelling.int (current ts).text
  · rename_i hk
    obtain ⟨⟨l, ts₁⟩, h₁, h⟩ := except_bind_eq_ok.1 h
    obtain ⟨⟨len, ts₂⟩, h₂, h⟩ := except_bind_eq_ok.1 h
    obtain ⟨n, h₃, h⟩ := except_bind_eq_ok.1 h
    obtain ⟨⟨r, ts₃⟩, h₄, h⟩ := except_bind_eq_ok.1 h
    simp only [pure, Except.pure, Except.ok.injEq, Prod.mk.injEq] at h
    obtain ⟨rfl, rfl⟩ := h
    obtain ⟨e₁, k₁⟩ := (expect_eq_ok (by decide)).1 h₁
    obtain ⟨rfl, k₂⟩ := (expect_eq_ok (by decide)).1 h₂
    obtain ⟨hn, hn0⟩ := varcharLength_eq_ok.1 h₃
    obtain ⟨rfl, k₄⟩ := (expect_eq_ok (by decide)).1 h₄
    refine ⟨[current ts, l, len, r], ?_, ?_⟩
    · calc ts = current ts :: advance ts := eq_current_cons (by rw [hk]; decide)
        _ = [current ts, l, len, r] ++ ts₃ := by rw [e₁]; rfl
    · simpa [Token.lexeme, hk, k₁, k₂, k₄] using
        TypeSpelling.varchar (current ts).text l.text len.text r.text hn hn0
  · cases h

theorem dataType_complete : Complete dataType TypeSpelling := by
  intro ws d rest h
  generalize hl : ws.map Token.lexeme = ls at h
  cases h with
  | int w =>
    obtain ⟨t, rfl, ht⟩ := List.map_eq_singleton_iff.1 hl
    obtain ⟨hk, -⟩ := lexeme_eq.1 ht
    simp [dataType, hk, advance_cons]
  | varchar w l d r hlen hpos =>
    simp only [List.map_eq_cons_iff, List.map_eq_nil_iff, lexeme_eq] at hl
    obtain ⟨t₁, _, rfl, ⟨k₁, -⟩, t₂, _, rfl, ⟨k₂, -⟩, t₃, _, rfl, ⟨k₃, rfl⟩, t₄, _, rfl, ⟨k₄, -⟩,
      rfl⟩ := hl
    simp [dataType, k₁, advance_cons, expect_cons, k₂, k₃, k₄, varcharLength_of hlen hpos, bind,
      Except.bind, pure, Except.pure]

theorem column_sound : Sound column ColumnSpelling := by
  intro ts col rest h
  unfold column at h
  split at h
  · cases h
  · rename_i x rest₁ hname
    cases hd : dataType rest₁ with
    | error e => simp [hd, Except.map] at h
    | ok p =>
      simp only [hd, Except.map, Except.ok.injEq, Prod.mk.injEq] at h
      obtain ⟨rfl, rfl⟩ := h
      obtain ⟨t, rfl, ht⟩ := name_eq_ok.1 hname
      obtain ⟨ws, rfl, hws⟩ := dataType_sound hd
      exact ⟨t :: ws, rfl, by simpa [ht] using ColumnSpelling.mk x hws⟩

theorem column_complete : Complete column ColumnSpelling := by
  intro ws col rest h
  generalize hl : ws.map Token.lexeme = ls at h
  cases h with
  | mk x type =>
    obtain ⟨t, ws', rfl, ht, hws'⟩ := List.map_eq_cons_iff.1 hl
    have hname : name "expected column name" (t :: (ws' ++ rest)) = .ok (x, ws' ++ rest) :=
      name_eq_ok.2 ⟨t, rfl, ht⟩
    simp [column, hname, dataType_complete rest (hws' ▸ type), Except.map]

theorem assignment_sound : Sound assignment AssignmentSpelling := by
  intro ts a rest h
  unfold assignment at h
  obtain ⟨⟨x, ts₁⟩, h₁, h⟩ := except_bind_eq_ok.1 h
  obtain ⟨⟨e, ts₂⟩, h₂, h⟩ := except_bind_eq_ok.1 h
  obtain ⟨⟨v, ts₃⟩, h₃, h⟩ := except_bind_eq_ok.1 h
  simp only [pure, Except.pure, Except.ok.injEq, Prod.mk.injEq] at h
  obtain ⟨rfl, rfl⟩ := h
  obtain ⟨t, rfl, ht⟩ := name_eq_ok.1 h₁
  obtain ⟨rfl, k₂⟩ := (expect_eq_ok (by decide)).1 h₂
  obtain ⟨ws, rfl, hws⟩ := literal_sound h₃
  obtain ⟨k₁, rfl⟩ := lexeme_eq.1 ht
  refine ⟨t :: e :: ws, rfl, ?_⟩
  simpa [Token.lexeme, k₁, k₂] using AssignmentSpelling.mk t.text e.text hws

theorem assignment_complete : Complete assignment AssignmentSpelling := by
  intro ws a rest h
  generalize hl : ws.map Token.lexeme = ls at h
  cases h with
  | mk c e value =>
    simp only [List.map_eq_cons_iff] at hl
    obtain ⟨t₁, _, rfl, h₁, t₂, ws', rfl, h₂, hws'⟩ := hl
    have hname : name "expected column name" (t₁ :: t₂ :: (ws' ++ rest)) =
        .ok (c, t₂ :: (ws' ++ rest)) := name_eq_ok.2 ⟨t₁, rfl, h₁⟩
    simp [assignment, hname, expect_cons, (lexeme_eq.1 h₂).1, literal_complete rest (hws' ▸ value),
      bind, Except.bind, pure, Except.pure]

theorem filter_sound : Sound filter FilterSpelling := by
  intro ts c rest h
  unfold filter at h
  split at h
  · rename_i hk
    obtain ⟨⟨x, ts₁⟩, h₁, h⟩ := except_bind_eq_ok.1 h
    obtain ⟨t, e₁, ht⟩ := name_eq_ok.1 h₁
    dsimp only at h
    split at h
    · rename_i op hop
      obtain ⟨⟨v, ts₂⟩, h₂, h⟩ := except_bind_eq_ok.1 h
      simp only [pure, Except.pure, Except.ok.injEq, Prod.mk.injEq] at h
      obtain ⟨rfl, rfl⟩ := h
      obtain ⟨ws, e₂, hws⟩ := literal_sound h₂
      refine ⟨current ts :: t :: current ts₁ :: ws, ?_, ?_⟩
      · calc ts = current ts :: advance ts := eq_current_cons (by rw [hk]; decide)
          _ = current ts :: t :: current ts₁ :: advance ts₁ := by
            rw [e₁, ← eq_current_cons (compareOp?_ne_eof hop)]
          _ = _ := by rw [e₂]; rfl
      · obtain ⟨k₁, rfl⟩ := lexeme_eq.1 ht
        simpa [Token.lexeme, hk, k₁] using
          FilterSpelling.some (current ts).text t.text (current ts₁).text hop hws
    · cases h
  · simp only [Except.ok.injEq, Prod.mk.injEq] at h
    obtain ⟨rfl, rfl⟩ := h
    exact ⟨[], rfl, .none⟩

theorem filter_complete {ws : List Token} {c : Option Comparison} (rest : List Token)
    (h : FilterSpelling (ws.map Token.lexeme) c) (hend : (current rest).kind ≠ .«where») :
    filter (ws ++ rest) = .ok (c, rest) := by
  generalize hl : ws.map Token.lexeme = ls at h
  cases h with
  | none =>
    obtain rfl := List.map_eq_nil_iff.1 hl
    simp [filter, hend]
  | some w x o cmp value =>
    simp only [List.map_eq_cons_iff] at hl
    obtain ⟨t₁, _, rfl, h₁, t₂, _, rfl, h₂, t₃, ws', rfl, h₃, hws'⟩ := hl
    have hname : name "expected column name in WHERE clause" (t₂ :: t₃ :: (ws' ++ rest)) =
        .ok (x, t₃ :: (ws' ++ rest)) := name_eq_ok.2 ⟨t₂, rfl, h₂⟩
    obtain ⟨k₁, -⟩ := lexeme_eq.1 h₁
    obtain ⟨k₃, -⟩ := lexeme_eq.1 h₃
    simp [filter, k₁, advance_cons, hname, k₃, cmp, compareOp?_ne_eof cmp,
      literal_complete rest (hws' ▸ value), bind, Except.bind, pure, Except.pure]

theorem projection_sound : Sound projection ProjectionSpelling := by
  intro ts p rest h
  unfold projection at h
  split at h
  · rename_i hk
    simp only [Except.ok.injEq, Prod.mk.injEq] at h
    obtain ⟨rfl, rfl⟩ := h
    refine ⟨[current ts], eq_current_cons (by rw [hk]; decide), ?_⟩
    simpa [Token.lexeme, hk] using ProjectionSpelling.all (current ts).text
  · cases hl : commaList (name "expected column name or '*'") (name_consumes _) ts with
    | error e => simp [hl, Except.map] at h
    | ok q =>
      simp only [hl, Except.map, Except.ok.injEq, Prod.mk.injEq] at h
      obtain ⟨rfl, rfl⟩ := h
      obtain ⟨ws, rfl, hws⟩ := commaList_sound (name_sound _) hl
      exact ⟨ws, rfl, .columns hws⟩

theorem Grammar.ListSpelling.head_identifier {ws : List Token} {names : List String}
    (h : ListSpelling NameSpelling (ws.map Token.lexeme) names) :
    ∃ t ws', ws = t :: ws' ∧ t.kind = .identifier := by
  generalize hl : ws.map Token.lexeme = ls at h
  have first : ∃ x ls', ls = (.identifier, x) :: ls' := by
    cases h with
    | one first =>
      cases first
      exact ⟨_, [], rfl⟩
    | cons c first tail =>
      cases first
      exact ⟨_, _, rfl⟩
  obtain ⟨x, ls', rfl⟩ := first
  obtain ⟨t, ws', rfl, ht, -⟩ := List.map_eq_cons_iff.1 hl
  exact ⟨t, ws', rfl, (lexeme_eq.1 ht).1⟩

theorem projection_complete {ws : List Token} {p : Projection} (rest : List Token)
    (h : ProjectionSpelling (ws.map Token.lexeme) p) (hend : (current rest).kind ≠ .comma) :
    projection (ws ++ rest) = .ok (p, rest) := by
  generalize hl : ws.map Token.lexeme = ls at h
  cases h with
  | all a =>
    obtain ⟨t, rfl, ht⟩ := List.map_eq_singleton_iff.1 hl
    obtain ⟨hk, -⟩ := lexeme_eq.1 ht
    simp [projection, hk, advance_cons]
  | columns list =>
    subst hl
    obtain ⟨t, ws', rfl, hk⟩ := list.head_identifier
    rw [projection, if_neg (by simp [hk]), commaList_complete (name_complete _) rest list hend]
    rfl

/-! ## Statements -/

theorem createTable_sound : Sound createTable Sentence := by
  intro ts s rest h
  unfold createTable at h
  obtain ⟨⟨t₁, ts₁⟩, h₁, h⟩ := except_bind_eq_ok.1 h
  obtain ⟨⟨t₂, ts₂⟩, h₂, h⟩ := except_bind_eq_ok.1 h
  obtain ⟨⟨x, ts₃⟩, h₃, h⟩ := except_bind_eq_ok.1 h
  obtain ⟨⟨t₄, ts₄⟩, h₄, h⟩ := except_bind_eq_ok.1 h
  obtain ⟨⟨cols, ts₅⟩, h₅, h⟩ := except_bind_eq_ok.1 h
  obtain ⟨⟨t₆, ts₆⟩, h₆, h⟩ := except_bind_eq_ok.1 h
  obtain ⟨⟨t₇, ts₇⟩, h₇, h⟩ := except_bind_eq_ok.1 h
  simp only [pure, Except.pure, Except.ok.injEq, Prod.mk.injEq] at h
  obtain ⟨rfl, rfl⟩ := h
  obtain ⟨rfl, k₁⟩ := (expect_eq_ok (by decide)).1 h₁
  obtain ⟨rfl, k₂⟩ := (expect_eq_ok (by decide)).1 h₂
  obtain ⟨t₃, rfl, hx⟩ := name_eq_ok.1 h₃
  obtain ⟨k₃, rfl⟩ := lexeme_eq.1 hx
  obtain ⟨rfl, k₄⟩ := (expect_eq_ok (by decide)).1 h₄
  obtain ⟨wsc, rfl, hcols⟩ := commaList_sound column_sound h₅
  obtain ⟨rfl, k₆⟩ := (expect_eq_ok (by decide)).1 h₆
  obtain ⟨rfl, k₇⟩ := (expect_eq_ok (by decide)).1 h₇
  refine ⟨t₁ :: t₂ :: t₃ :: t₄ :: (wsc ++ [t₆, t₇]), by simp, ?_⟩
  simpa [Token.lexeme, k₁, k₂, k₃, k₄, k₆, k₇] using
    Sentence.createTable t₁.text t₂.text t₃.text t₄.text t₆.text t₇.text hcols

theorem insert_sound : Sound insert Sentence := by
  intro ts s rest h
  unfold insert at h
  obtain ⟨⟨t₁, ts₁⟩, h₁, h⟩ := except_bind_eq_ok.1 h
  obtain ⟨⟨t₂, ts₂⟩, h₂, h⟩ := except_bind_eq_ok.1 h
  obtain ⟨⟨x, ts₃⟩, h₃, h⟩ := except_bind_eq_ok.1 h
  obtain ⟨⟨t₄, ts₄⟩, h₄, h⟩ := except_bind_eq_ok.1 h
  obtain ⟨⟨t₅, ts₅⟩, h₅, h⟩ := except_bind_eq_ok.1 h
  obtain ⟨⟨vals, ts₆⟩, h₆, h⟩ := except_bind_eq_ok.1 h
  obtain ⟨⟨t₇, ts₇⟩, h₇, h⟩ := except_bind_eq_ok.1 h
  obtain ⟨⟨t₈, ts₈⟩, h₈, h⟩ := except_bind_eq_ok.1 h
  simp only [pure, Except.pure, Except.ok.injEq, Prod.mk.injEq] at h
  obtain ⟨rfl, rfl⟩ := h
  obtain ⟨rfl, k₁⟩ := (expect_eq_ok (by decide)).1 h₁
  obtain ⟨rfl, k₂⟩ := (expect_eq_ok (by decide)).1 h₂
  obtain ⟨t₃, rfl, hx⟩ := name_eq_ok.1 h₃
  obtain ⟨k₃, rfl⟩ := lexeme_eq.1 hx
  obtain ⟨rfl, k₄⟩ := (expect_eq_ok (by decide)).1 h₄
  obtain ⟨rfl, k₅⟩ := (expect_eq_ok (by decide)).1 h₅
  obtain ⟨wsv, rfl, hvals⟩ := commaList_sound literal_sound h₆
  obtain ⟨rfl, k₇⟩ := (expect_eq_ok (by decide)).1 h₇
  obtain ⟨rfl, k₈⟩ := (expect_eq_ok (by decide)).1 h₈
  refine ⟨t₁ :: t₂ :: t₃ :: t₄ :: t₅ :: (wsv ++ [t₇, t₈]), by simp, ?_⟩
  simpa [Token.lexeme, k₁, k₂, k₃, k₄, k₅, k₇, k₈] using
    Sentence.insert t₁.text t₂.text t₃.text t₄.text t₅.text t₇.text t₈.text hvals

theorem select_sound : Sound select Sentence := by
  intro ts s rest h
  unfold select at h
  obtain ⟨⟨t₁, ts₁⟩, h₁, h⟩ := except_bind_eq_ok.1 h
  obtain ⟨⟨proj, ts₂⟩, h₂, h⟩ := except_bind_eq_ok.1 h
  obtain ⟨⟨t₃, ts₃⟩, h₃, h⟩ := except_bind_eq_ok.1 h
  obtain ⟨⟨x, ts₄⟩, h₄, h⟩ := except_bind_eq_ok.1 h
  obtain ⟨⟨cond, ts₅⟩, h₅, h⟩ := except_bind_eq_ok.1 h
  obtain ⟨⟨t₆, ts₆⟩, h₆, h⟩ := except_bind_eq_ok.1 h
  simp only [pure, Except.pure, Except.ok.injEq, Prod.mk.injEq] at h
  obtain ⟨rfl, rfl⟩ := h
  obtain ⟨rfl, k₁⟩ := (expect_eq_ok (by decide)).1 h₁
  obtain ⟨wsp, rfl, hproj⟩ := projection_sound h₂
  obtain ⟨rfl, k₃⟩ := (expect_eq_ok (by decide)).1 h₃
  obtain ⟨t₄, rfl, hx⟩ := name_eq_ok.1 h₄
  obtain ⟨k₄, rfl⟩ := lexeme_eq.1 hx
  obtain ⟨wsf, rfl, hcond⟩ := filter_sound h₅
  obtain ⟨rfl, k₆⟩ := (expect_eq_ok (by decide)).1 h₆
  refine ⟨t₁ :: (wsp ++ t₃ :: t₄ :: (wsf ++ [t₆])), by simp, ?_⟩
  simpa [Token.lexeme, k₁, k₃, k₄, k₆] using
    Sentence.select t₁.text t₃.text t₄.text t₆.text hproj hcond

theorem update_sound : Sound update Sentence := by
  intro ts s rest h
  unfold update at h
  obtain ⟨⟨t₁, ts₁⟩, h₁, h⟩ := except_bind_eq_ok.1 h
  obtain ⟨⟨x, ts₂⟩, h₂, h⟩ := except_bind_eq_ok.1 h
  obtain ⟨⟨t₃, ts₃⟩, h₃, h⟩ := except_bind_eq_ok.1 h
  obtain ⟨⟨as, ts₄⟩, h₄, h⟩ := except_bind_eq_ok.1 h
  obtain ⟨⟨cond, ts₅⟩, h₅, h⟩ := except_bind_eq_ok.1 h
  obtain ⟨⟨t₆, ts₆⟩, h₆, h⟩ := except_bind_eq_ok.1 h
  simp only [pure, Except.pure, Except.ok.injEq, Prod.mk.injEq] at h
  obtain ⟨rfl, rfl⟩ := h
  obtain ⟨rfl, k₁⟩ := (expect_eq_ok (by decide)).1 h₁
  obtain ⟨t₂, rfl, hx⟩ := name_eq_ok.1 h₂
  obtain ⟨k₂, rfl⟩ := lexeme_eq.1 hx
  obtain ⟨rfl, k₃⟩ := (expect_eq_ok (by decide)).1 h₃
  obtain ⟨wsa, rfl, has⟩ := commaList_sound assignment_sound h₄
  obtain ⟨wsf, rfl, hcond⟩ := filter_sound h₅
  obtain ⟨rfl, k₆⟩ := (expect_eq_ok (by decide)).1 h₆
  refine ⟨t₁ :: t₂ :: t₃ :: (wsa ++ wsf ++ [t₆]), by simp, ?_⟩
  simpa [Token.lexeme, k₁, k₂, k₃, k₆] using
    Sentence.update t₁.text t₂.text t₃.text t₆.text has hcond

theorem sound_of_map {p : List Token → Except Error (Statement × List Token)} (hp : Sound p Sentence)
    {ts : List Token} {s : Statement} (h : (p ts).map (·.1) = .ok s) :
    ∃ ws rest, ts = ws ++ rest ∧ Sentence (ws.map Token.lexeme) s := by
  cases hts : p ts with
  | error e => simp [hts, Except.map] at h
  | ok q =>
    simp only [hts, Except.map, Except.ok.injEq] at h
    subst h
    obtain ⟨ws, rfl, hws⟩ := hp hts
    exact ⟨ws, q.2, rfl, hws⟩

theorem statement_sound {ts : List Token} {s : Statement} (h : statement ts = .ok s) :
    ∃ ws rest, ts = ws ++ rest ∧ Sentence (ws.map Token.lexeme) s := by
  unfold statement at h
  dsimp only at h
  -- the first token chooses the production
  split at h
  · exact sound_of_map createTable_sound h
  · exact sound_of_map insert_sound h
  · exact sound_of_map select_sound h
  · exact sound_of_map update_sound h
  · cases h

theorem createTable_complete {t₁ t₂ t₃ t₄ t₅ t₆ : Token} {wsc : List Token} {cols : List Column}
    (rest : List Token) (k₁ : t₁.kind = .create) (k₂ : t₂.kind = .table)
    (k₃ : t₃.kind = .identifier) (k₄ : t₄.kind = .leftParen)
    (hcols : ListSpelling ColumnSpelling (wsc.map Token.lexeme) cols) (k₅ : t₅.kind = .rightParen)
    (k₆ : t₆.kind = .semicolon) :
    createTable (t₁ :: t₂ :: t₃ :: t₄ :: (wsc ++ t₅ :: t₆ :: rest)) =
      .ok (.createTable t₃.text cols, rest) := by
  have hlist : commaList column column_consumes (wsc ++ t₅ :: t₆ :: rest) =
      .ok (cols, t₅ :: t₆ :: rest) :=
    commaList_complete column_complete _ hcols (by simp [k₅])
  simp [createTable, expect_cons, k₁, k₂, name_cons k₃, k₄, hlist, k₅, k₆, bind, Except.bind,
    pure, Except.pure]

theorem insert_complete {t₁ t₂ t₃ t₄ t₅ t₆ t₇ : Token} {wsv : List Token} {vals : List String}
    (rest : List Token) (k₁ : t₁.kind = .insert) (k₂ : t₂.kind = .into)
    (k₃ : t₃.kind = .identifier) (k₄ : t₄.kind = .values) (k₅ : t₅.kind = .leftParen)
    (hvals : ListSpelling LiteralSpelling (wsv.map Token.lexeme) vals) (k₆ : t₆.kind = .rightParen)
    (k₇ : t₇.kind = .semicolon) :
    insert (t₁ :: t₂ :: t₃ :: t₄ :: t₅ :: (wsv ++ t₆ :: t₇ :: rest)) =
      .ok (.insert t₃.text vals, rest) := by
  have hlist : commaList literal literal_consumes (wsv ++ t₆ :: t₇ :: rest) =
      .ok (vals, t₆ :: t₇ :: rest) :=
    commaList_complete literal_complete _ hvals (by simp [k₆])
  simp [insert, expect_cons, k₁, k₂, name_cons k₃, k₄, k₅, hlist, k₆, k₇, bind, Except.bind,
    pure, Except.pure]

theorem select_complete {t₁ t₂ t₃ t₄ : Token} {wsp wsf : List Token} {proj : Projection}
    {cond : Option Comparison} (rest : List Token) (k₁ : t₁.kind = .select)
    (hproj : ProjectionSpelling (wsp.map Token.lexeme) proj) (k₂ : t₂.kind = .«from»)
    (k₃ : t₃.kind = .identifier) (hcond : FilterSpelling (wsf.map Token.lexeme) cond)
    (k₄ : t₄.kind = .semicolon) :
    select (t₁ :: (wsp ++ t₂ :: t₃ :: (wsf ++ t₄ :: rest))) =
      .ok (.select proj t₃.text cond, rest) := by
  have hp := projection_complete (t₂ :: t₃ :: (wsf ++ t₄ :: rest)) hproj (by simp [k₂])
  have hf := filter_complete (t₄ :: rest) hcond (by simp [k₄])
  simp [select, expect_cons, k₁, hp, k₂, name_cons k₃, hf, k₄, bind, Except.bind, pure,
    Except.pure]

theorem update_complete {t₁ t₂ t₃ t₄ : Token} {wsa wsf : List Token} {as : List Assignment}
    {cond : Option Comparison} (rest : List Token) (k₁ : t₁.kind = .update)
    (k₂ : t₂.kind = .identifier) (k₃ : t₃.kind = .set)
    (has : ListSpelling AssignmentSpelling (wsa.map Token.lexeme) as)
    (hcond : FilterSpelling (wsf.map Token.lexeme) cond) (k₄ : t₄.kind = .semicolon) :
    update (t₁ :: t₂ :: t₃ :: (wsa ++ (wsf ++ t₄ :: rest))) =
      .ok (.update t₂.text as cond, rest) := by
  -- the token after the assignments is a WHERE or the `;`: no comma either way
  have hnext : (current (wsf ++ t₄ :: rest)).kind ≠ .comma := by
    generalize hl : wsf.map Token.lexeme = ls at hcond
    cases hcond with
    | none => simp [List.map_eq_nil_iff.1 hl, k₄]
    | some w c o cmp value =>
      obtain ⟨t, _, rfl, ht, -⟩ := List.map_eq_cons_iff.1 hl
      simp [(lexeme_eq.1 ht).1]
  have hlist : commaList assignment assignment_consumes (wsa ++ (wsf ++ t₄ :: rest)) =
      .ok (as, wsf ++ t₄ :: rest) :=
    commaList_complete assignment_complete _ has hnext
  have hf := filter_complete (t₄ :: rest) hcond (by simp [k₄])
  simp [update, expect_cons, k₁, name_cons k₂, k₃, hlist, hf, k₄, bind, Except.bind, pure,
    Except.pure]

theorem statement_complete {ws : List Token} {s : Statement} (rest : List Token)
    (h : Sentence (ws.map Token.lexeme) s) : statement (ws ++ rest) = .ok s := by
  generalize hl : ws.map Token.lexeme = ls at h
  -- take the spelling apart token by token, then run the production it starts
  cases h with
  | createTable k₁ k₂ x p₁ p₂ p₃ columns =>
    simp only [List.cons_append, List.nil_append, List.map_eq_cons_iff, List.map_eq_append_iff,
      List.map_eq_nil_iff, lexeme_eq] at hl
    obtain ⟨t₁, _, rfl, ⟨h₁, -⟩, t₂, _, rfl, ⟨h₂, -⟩, t₃, _, rfl, ⟨h₃, rfl⟩, t₄, _, rfl, ⟨h₄, -⟩,
      wsc, _, rfl, rfl, t₅, _, rfl, ⟨h₅, -⟩, t₆, _, rfl, ⟨h₆, -⟩, rfl⟩ := hl
    have hc := createTable_complete rest h₁ h₂ h₃ h₄ columns h₅ h₆
    simp [statement, h₁, hc, Except.map]
  | insert k₁ k₂ x k₃ p₁ p₂ p₃ values =>
    simp only [List.cons_append, List.nil_append, List.map_eq_cons_iff, List.map_eq_append_iff,
      List.map_eq_nil_iff, lexeme_eq] at hl
    obtain ⟨t₁, _, rfl, ⟨h₁, -⟩, t₂, _, rfl, ⟨h₂, -⟩, t₃, _, rfl, ⟨h₃, rfl⟩, t₄, _, rfl, ⟨h₄, -⟩,
      t₅, _, rfl, ⟨h₅, -⟩, wsv, _, rfl, rfl, t₆, _, rfl, ⟨h₆, -⟩, t₇, _, rfl, ⟨h₇, -⟩, rfl⟩ := hl
    have hc := insert_complete rest h₁ h₂ h₃ h₄ h₅ values h₆ h₇
    simp [statement, h₁, hc, Except.map]
  | select k₁ k₂ x p projection filter =>
    simp only [List.cons_append, List.nil_append, List.append_assoc, List.map_eq_cons_iff,
      List.map_eq_append_iff, List.map_eq_nil_iff, lexeme_eq] at hl
    obtain ⟨t₁, _, rfl, ⟨h₁, -⟩, wsp, _, rfl, rfl, t₂, _, rfl, ⟨h₂, -⟩, t₃, _, rfl, ⟨h₃, rfl⟩,
      wsf, _, rfl, rfl, t₄, _, rfl, ⟨h₄, -⟩, rfl⟩ := hl
    have hc := select_complete rest h₁ projection h₂ h₃ filter h₄
    simp [statement, h₁, hc, Except.map]
  | update k₁ x k₂ p assignments filter =>
    simp only [List.cons_append, List.nil_append, List.append_assoc, List.map_eq_cons_iff,
      List.map_eq_append_iff, List.map_eq_nil_iff, lexeme_eq] at hl
    obtain ⟨t₁, _, rfl, ⟨h₁, -⟩, t₂, _, rfl, ⟨h₂, rfl⟩, t₃, _, rfl, ⟨h₃, -⟩, wsa, _, rfl, rfl,
      wsf, _, rfl, rfl, t₄, _, rfl, ⟨h₄, -⟩, rfl⟩ := hl
    have hc := update_complete rest h₁ h₂ h₃ assignments filter h₄
    simp [statement, h₁, hc, Except.map]

/-! ## The whole token list -/

theorem withEnd_eq (L : List Token) :
    withEnd L = L ∨ ∃ e : Token, e.kind = .eof ∧ withEnd L = L ++ [e] := by
  unfold withEnd
  split
  · split
    · exact .inl rfl
    · exact .inr ⟨_, rfl, rfl⟩
  · rename_i hnone
    rw [List.getLast?_eq_none_iff.1 hnone]
    exact .inr ⟨Token.eof 0, rfl, rfl⟩

theorem Grammar.Sentence.no_eof {ws : List Token} {s : Statement}
    (h : Sentence (ws.map Token.lexeme) s) : ∀ t ∈ ws, t.kind ≠ .eof :=
  fun t ht => h.noEnd t.lexeme (List.mem_map_of_mem ht)

/-- The parser accepts exactly the grammar: a token list parses to `s` if and only if a run of
tokens at its front, before its first end of input, spells `s`. What follows that run is never
read, and the grammar sees kinds and texts only, so neither later tokens nor positions play a
part. -/
theorem parseTokens_eq_ok_iff (L : List Token) (s : Statement) :
    parseTokens L = .ok s ↔
      ∃ pre rest, L = pre ++ rest ∧ (∀ t ∈ pre, t.kind ≠ .eof) ∧
        Sentence (pre.map Token.lexeme) s := by
  unfold parseTokens
  constructor
  · intro h
    obtain ⟨ws, rest, hws, hs⟩ := statement_sound h
    rcases withEnd_eq L with hL | ⟨e, he, hL⟩
    · exact ⟨ws, rest, hL ▸ hws, hs.no_eof, hs⟩
    · rw [hL] at hws
      -- the added end of input lies after the spelled run, which holds none
      rcases List.append_eq_append_iff.1 hws with ⟨a, hwsa, hea⟩ | ⟨c, hLc, -⟩
      · cases a with
        | nil => exact ⟨ws, [], by simpa using hwsa.symm, hs.no_eof, hs⟩
        | cons a as =>
          obtain ⟨rfl, -⟩ := List.cons_eq_cons.1 hea
          exact absurd he (hs.no_eof e (by simp [hwsa]))
      · exact ⟨ws, c, hLc, hs.no_eof, hs⟩
  · rintro ⟨pre, rest, rfl, -, hs⟩
    rcases withEnd_eq (pre ++ rest) with hL | ⟨e, -, hL⟩
    · rw [hL]
      exact statement_complete rest hs
    · rw [hL, List.append_assoc]
      exact statement_complete (rest ++ [e]) hs

end TinySql.Sql
