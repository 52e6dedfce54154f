import TinySql.Proofs.Parsing
import TinySql.Proofs.SyntaxErrors

/-!
Where the parser's cursor can stand. The cursor moves forwards only, each production reads
tokens that are no end of input, and `advance` stays put on an end of input. So on the list the
parser is given, which always holds an end of input, the cursor never passes the first one:
every token it looks at is a token of the list, and what follows the first end of input is
never read (`statement_append_of_eof`).

The comma-separated lists are the parser's loops. Each round reads an item of at least one
token and then either stops or reads a comma, which is no end of input either; so the number of
tokens left before the first end of input falls in every round (`RoundsWithin`), and a list of
`n` items spans at least `2 * n - 1` of them (`RoundsWithin.length_le`).
-/

namespace TinySql.Sql

open Grammar

variable {α : Type}

/-! ## The first end of input -/

/-- The index of the first end of input of a token list, or its length when it holds none. -/
def firstEof (ts : List Token) : Nat := ts.findIdx fun t => t.kind = .eof

theorem firstEof_le_length (ts : List Token) : firstEof ts ≤ ts.length := List.findIdx_le_length

theorem firstEof_append {pre : List Token} (hpre : ∀ t ∈ pre, t.kind ≠ .eof) (ts : List Token) :
    firstEof (pre ++ ts) = pre.length + firstEof ts := by
  have hnone : firstEof pre = pre.length :=
    List.findIdx_eq_length_of_false fun t ht => decide_eq_false (hpre t ht)
  unfold firstEof at hnone ⊢
  rw [List.findIdx_append, hnone, if_neg (Nat.lt_irrefl _), Nat.add_comm]

theorem kind_ne_eof_of_mem_take {ts : List Token} {i : Nat} (hi : i ≤ firstEof ts) {t : Token}
    (ht : t ∈ ts.take i) : t.kind ≠ .eof := by
  obtain ⟨k, hk, rfl⟩ := List.getElem_of_mem ht
  rw [List.getElem_take]
  have hk' : k < firstEof ts := by
    rw [List.length_take] at hk
    omega
  exact of_decide_eq_false (List.not_of_lt_findIdx hk')

theorem getElem?_firstEof {ts : List Token} (h : ∃ t ∈ ts, t.kind = .eof) :
    ∃ t, ts[firstEof ts]? = some t ∧ t.kind = .eof := by
  obtain ⟨t, ht, hk⟩ := h
  have hlt : firstEof ts < ts.length :=
    List.findIdx_lt_length_of_exists ⟨t, ht, decide_eq_true hk⟩
  exact ⟨ts[firstEof ts], List.getElem?_eq_getElem hlt,
    of_decide_eq_true (List.findIdx_getElem (w := hlt))⟩

theorem current_drop {ts : List Token} {i : Nat} (h : i < ts.length) :
    current (ts.drop i) = ts[i] := by
  rw [List.drop_eq_getElem_cons h]
  rfl

theorem kind_current_drop_firstEof (ts : List Token) :
    (current (ts.drop (firstEof ts))).kind = .eof := by
  by_cases h : firstEof ts < ts.length
  · rw [current_drop h]
    exact of_decide_eq_true (List.findIdx_getElem (w := h))
  · rw [List.drop_eq_nil_of_le (by have := firstEof_le_length ts; omega)]
    rfl

theorem advance_eq_tail {ts : List Token} (h : (current ts).kind ≠ .eof) :
    advance ts = ts.tail := by
  cases ts with
  | nil => rfl
  | cons t ts => exact advance_cons h ts

theorem drop_after_passed {ts pre rest : List Token} {i : Nat} (hi : i ≤ firstEof ts)
    (hts : ts.drop i = pre ++ rest) (hpre : ∀ t ∈ pre, t.kind ≠ .eof) :
    i + pre.length ≤ firstEof ts ∧ rest = ts.drop (i + pre.length) := by
  have hlen : (ts.take i).length = i :=
    List.length_take_of_le (Nat.le_trans hi (firstEof_le_length ts))
  have hsplit : ts = (ts.take i ++ pre) ++ rest := by
    rw [List.append_assoc, ← hts, List.take_append_drop]
  have hpassed : ∀ t ∈ ts.take i ++ pre, t.kind ≠ .eof := by
    intro t ht
    rcases List.mem_append.1 ht with ht | ht
    · exact kind_ne_eof_of_mem_take hi ht
    · exact hpre t ht
  have hfirst := firstEof_append hpassed rest
  rw [← hsplit, List.length_append, hlen] at hfirst
  refine ⟨by omega, ?_⟩
  rw [← List.drop_drop, hts, List.drop_left]

/-! ## Productions move the cursor within bounds -/

/-- From every place up to the first end of input of `W`, a success of `p` moves the cursor
forwards, and not past the first end of input. -/
def AdvancesWithin (W : List Token) (p : List Token → Except Error (α × List Token)) : Prop :=
  ∀ i ≤ firstEof W, ∀ a rest, p (W.drop i) = .ok (a, rest) →
    ∃ j, i < j ∧ j ≤ firstEof W ∧ rest = W.drop j

theorem noEof_of_noEnd {ws : List Token} (h : NoEnd (ws.map Token.lexeme)) :
    ∀ t ∈ ws, t.kind ≠ .eof :=
  fun t ht => h t.lexeme (List.mem_map_of_mem ht)

theorem Sound.advancesWithin {p : List Token → Except Error (α × List Token)}
    {R : List Lexeme → α → Prop} (hp : Sound p R) (hR : ∀ {ls a}, R ls a → NoEnd ls ∧ ls ≠ [])
    (W : List Token) : AdvancesWithin W p := by
  intro i hi a rest h
  obtain ⟨ws, hts, hws⟩ := hp h
  obtain ⟨hend, hne⟩ := hR hws
  obtain ⟨hle, hrest⟩ := drop_after_passed hi hts (noEof_of_noEnd hend)
  have hpos : 0 < ws.length := List.length_pos_iff.2 fun h => hne (by rw [h, List.map_nil])
  exact ⟨i + ws.length, by omega, hle, hrest⟩

namespace Grammar

theorem NameSpelling.ne_nil {ls : List Lexeme} {x : String} (h : NameSpelling ls x) : ls ≠ [] := by
  cases h
  exact List.cons_ne_nil _ _

theorem LiteralSpelling.ne_nil {ls : List Lexeme} {x : String} (h : LiteralSpelling ls x) :
    ls ≠ [] := by
  cases h <;> exact List.cons_ne_nil _ _

theorem ColumnSpelling.ne_nil {ls : List Lexeme} {c : Column} (h : ColumnSpelling ls c) :
    ls ≠ [] := by
  cases h
  exact List.cons_ne_nil _ _

theorem AssignmentSpelling.ne_nil {ls : List Lexeme} {a : Assignment} (h : AssignmentSpelling ls a) :
    ls ≠ [] := by
  cases h
  exact List.cons_ne_nil _ _

theorem Sentence.ne_nil {ls : List Lexeme} {s : Statement} (h : Sentence ls s) : ls ≠ [] := by
  cases h <;> simp

end Grammar

theorem items_advanceWithin (W : List Token) :
    AdvancesWithin W column ∧ AdvancesWithin W literal ∧ (∀ m, AdvancesWithin W (name m)) ∧
      AdvancesWithin W assignment :=
  ⟨Sound.advancesWithin column_sound (fun h => ⟨h.noEnd, h.ne_nil⟩) W,
    Sound.advancesWithin literal_sound (fun h => ⟨h.noEnd, h.ne_nil⟩) W,
    fun m => Sound.advancesWithin (name_sound m) (fun h => ⟨h.noEnd, h.ne_nil⟩) W,
    Sound.advancesWithin assignment_sound (fun h => ⟨h.noEnd, h.ne_nil⟩) W⟩

theorem statements_advanceWithin (W : List Token) :
    AdvancesWithin W createTable ∧ AdvancesWithin W insert ∧ AdvancesWithin W select ∧
      AdvancesWithin W update :=
  have hR : ∀ {ls s}, Sentence ls s → NoEnd ls ∧ ls ≠ [] := fun h => ⟨h.noEnd, h.ne_nil⟩
  ⟨Sound.advancesWithin createTable_sound hR W, Sound.advancesWithin insert_sound hR W,
    Sound.advancesWithin select_sound hR W, Sound.advancesWithin update_sound hR W⟩

/-! ## The rounds of a list -/

/-- One round of `commaList item c` from every place up to the first end of input of `W`: it
fails with the error of its item; or the item reads at least one token, and the list either ends
there or reads a comma and starts its next round one place on, still up to the first end of
input. -/
def RoundsWithin (W : List Token) (item : List Token → Except Error (α × List Token))
    (c : Consumes item) : Prop :=
  ∀ i ≤ firstEof W,
    (∃ e, item (W.drop i) = .error e ∧ commaList item c (W.drop i) = .error e) ∨
    ∃ a j, i < j ∧ item (W.drop i) = .ok (a, W.drop j) ∧
      (j ≤ firstEof W ∧ commaList item c (W.drop i) = .ok ([a], W.drop j) ∨
        j < firstEof W ∧ commaList item c (W.drop i) =
          (commaList item c (W.drop (j + 1))).map fun p => (a :: p.1, p.2))

theorem AdvancesWithin.roundsWithin {W : List Token} {item : List Token → Except Error (α × List Token)}
    (h : AdvancesWithin W item) (c : Consumes item) : RoundsWithin W item c := by
  intro i hi
  cases hitem : item (W.drop i) with
  | error e => exact .inl ⟨e, rfl, commaList_of_error hitem⟩
  | ok r =>
    obtain ⟨a, rest⟩ := r
    obtain ⟨j, hij, hj, rfl⟩ := h i hi a rest hitem
    refine .inr ⟨a, j, hij, rfl, ?_⟩
    by_cases hc : (current (W.drop j)).kind = .comma
    · -- a comma is no end of input, so it stands before the first one
      have hlt : j < firstEof W := by
        refine Nat.lt_of_le_of_ne hj fun heq => ?_
        have heof := kind_current_drop_firstEof W
        rw [← heq, hc] at heof
        cases heof
      have hadv : advance (W.drop j) = W.drop (j + 1) := by
        rw [advance_eq_tail (by rw [hc]; decide), List.drop_add_one_eq_tail_drop]
      exact .inr ⟨hlt, by rw [commaList_of_comma hitem hc, hadv]⟩
    · exact .inl ⟨hj, commaList_of_end hitem hc⟩

theorem RoundsWithin.length_le {W : List Token} {item : List Token → Except Error (α × List Token)}
    {c : Consumes item} (h : RoundsWithin W item c) :
    ∀ i ≤ firstEof W, ∀ as rest, commaList item c (W.drop i) = .ok (as, rest) →
      ∃ j, i + 2 * as.length ≤ j + 1 ∧ j ≤ firstEof W ∧ rest = W.drop j := by
  intro i
  -- induction on the tokens left before the first end of input, which every round shortens
  induction hn : firstEof W - i using Nat.strongRecOn generalizing i with
  | ind n ih =>
    intro hi as rest hlist
    rcases h i hi with ⟨e, -, herr⟩ | ⟨a, j, hij, -, ⟨hj, hend⟩ | ⟨hj, hmore⟩⟩
    · rw [herr] at hlist
      cases hlist
    · rw [hend, Except.ok.injEq, Prod.mk.injEq] at hlist
      obtain ⟨rfl, rfl⟩ := hlist
      exact ⟨j, by simp only [List.length_singleton]; omega, hj, rfl⟩
    · rw [hmore] at hlist
      cases hnext : commaList item c (W.drop (j + 1)) with
      | error e =>
        rw [hnext] at hlist
        cases hlist
      | ok r =>
        rw [hnext] at hlist
        simp only [Except.map, Except.ok.injEq, Prod.mk.injEq] at hlist
        obtain ⟨rfl, rfl⟩ := hlist
        obtain ⟨j', hlen, hj', hrest⟩ :=
          ih (firstEof W - (j + 1)) (by omega) (j + 1) rfl hj r.1 r.2 hnext
        exact ⟨j', by simp only [List.length_cons]; omega, hj', hrest⟩

/-! ## Nothing after the first end of input is read -/

theorem Slot.run_append_of_eof {A : List Token} (hA : ∃ t ∈ A, t.kind = .eof) (B : List Token)
    (q : Slot) : q.run (A ++ B) = q.run A := by
  induction A generalizing q with
  | nil => simp at hA
  | cons t A ih =>
    by_cases hq : q = .done
    · subst hq
      rfl
    rw [List.cons_append, Slot.run.eq_3 q t _ hq, Slot.run.eq_3 q t A hq]
    by_cases ht : t.kind = .eof
    · rw [ht, Slot.next_eof]
    · have hA' : ∃ u ∈ A, u.kind = .eof := by
        obtain ⟨u, hu, hk⟩ := hA
        rcases List.mem_cons.1 hu with rfl | hu
        · exact absurd hk ht
        · exact ⟨u, hu, hk⟩
      simp only [ih hA']

theorem statement_append_of_eof {A : List Token} (hA : ∃ t ∈ A, t.kind = .eof) (B : List Token) :
    statement (A ++ B) = statement A := by
  cases hs : statement A with
  | error e =>
    rw [statement_eq_error_iff, Slot.run_append_of_eof hA]
    exact statement_eq_error_iff.1 hs
  | ok s =>
    obtain ⟨ws, rest, rfl, hws⟩ := statement_sound hs
    rw [List.append_assoc]
    exact statement_complete (rest ++ B) hws

/-- The parser's cursor stays at or before the first end of input of the list it is given,
which is the given list with an end of input added when it lacks one at its end.

That list holds an end of input, and at every place up to the first one the cursor reads the
list's own token; nothing after that place is ever read. Each statement production moves the
cursor forwards and not past it. Each round of the column, value, name and assignment lists
fails with its item's error or reads at least one token before the first end of input, so the
tokens left before it bound the rounds, and a list of `n` items spans at least `2 * n - 1` of
them. -/
theorem parse_cursor_within_first_eof (L : List Token) :
    let W := withEnd L
    (∃ t, W[firstEof W]? = some t ∧ t.kind = .eof) ∧
      (∀ i ≤ firstEof W, W[i]? = some (current (W.drop i))) ∧
      (∀ B, statement (W.take (firstEof W + 1) ++ B) = parseTokens L) ∧
      (AdvancesWithin W createTable ∧ AdvancesWithin W insert ∧ AdvancesWithin W select ∧
        AdvancesWithin W update) ∧
      (RoundsWithin W column column_consumes ∧ RoundsWithin W literal literal_consumes ∧
        (∀ m, RoundsWithin W (name m) (name_consumes m)) ∧
        RoundsWithin W assignment assignment_consumes) ∧
      (∀ {β : Type} (item : List Token → Except Error (β × List Token)) (c : Consumes item),
        RoundsWithin W item c → ∀ i ≤ firstEof W, ∀ as rest,
          commaList item c (W.drop i) = .ok (as, rest) →
          ∃ j, i + 2 * as.length ≤ j + 1 ∧ j ≤ firstEof W ∧ rest = W.drop j) := by
  intro W
  obtain ⟨t, ht, hkind⟩ := getElem?_firstEof (exists_eof_withEnd L)
  have hlt : firstEof W < W.length := (List.getElem?_eq_some_iff.1 ht).1
  -- the first end of input is among the tokens kept before anything appended
  have hkept : ∃ u ∈ W.take (firstEof W + 1), u.kind = .eof := by
    refine ⟨t, List.mem_of_getElem? (i := firstEof W) ?_, hkind⟩
    rw [List.getElem?_take_of_lt (Nat.lt_succ_self _)]
    exact ht
  obtain ⟨hcolumn, hliteral, hname, hassignment⟩ := items_advanceWithin W
  refine ⟨⟨t, ht, hkind⟩, fun i hi => ?_, fun B => ?_, statements_advanceWithin W,
    ⟨hcolumn.roundsWithin _, hliteral.roundsWithin _, fun m => (hname m).roundsWithin _,
      hassignment.roundsWithin _⟩, fun item c h => h.length_le⟩
  · have hi' : i < W.length := Nat.lt_of_le_of_lt hi hlt
    rw [current_drop hi', List.getElem?_eq_getElem hi']
  · rw [statement_append_of_eof hkept, parseTokens,
      ← statement_append_of_eof hkept (W.drop (firstEof W + 1)), List.take_append_drop]

end TinySql.Sql
