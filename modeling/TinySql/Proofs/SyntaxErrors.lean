import TinySql.Proofs.GrammarSlots

/-!
The parser runs the slot automaton, and a syntax error names the first token at which the
input stops being the beginning of a sentence.

Each parsing function is matched with the automaton on the part of the grammar it reads
(`RunsAt`): its result, followed by a run from the slot its value leads to, gives the run from
the slot it started in. Where a list or an optional WHERE looks one token ahead and leaves it
there, the judgment also records what the caller may rely on about that token. Put together,
a statement fails exactly as the run from the start does (`statement_runs`).

A list of kinds is viable when some sentence begins with it, and the viable lists are exactly
those the automaton walks (`viable_iff_walk`). So a parse that fails stops at the token after
the longest viable prefix of its input, with the error of the slot reached there; the one
failure that kinds cannot show is a VARCHAR length whose text is no valid length.
-/

namespace TinySql.Sql

open Grammar

variable {α β : Type}

/-- A parse from slot `q` over `ts` that agrees with the automaton: its result, followed by a
run from the slot its value leads to over what it leaves, gives the run from `q` over `ts`;
and after a success the kind of the next token satisfies `post`. -/
def RunsAt (x : Except Error (α × List Token)) (q : Slot) (ts : List Token) (after : α → Slot)
    (post : α → TokenKind → Prop) : Prop :=
  (x >>= fun r => (after r.1).run r.2) = q.run ts ∧
    ∀ a rest, x = .ok (a, rest) → post a (current rest).kind

namespace RunsAt

variable {x : Except Error (α × List Token)} {q : Slot} {ts : List Token} {after : α → Slot}
  {post : α → TokenKind → Prop}

theorem run_of_ok (h : RunsAt x q ts after post) {a : α} {rest : List Token}
    (hx : x = .ok (a, rest)) : (after a).run rest = q.run ts := by
  have hrun := h.1
  rw [hx] at hrun
  exact hrun

theorem run_of_error (h : RunsAt x q ts after post) {e : Error} (hx : x = .error e) :
    q.run ts = .error e := by
  have hrun := h.1
  rw [hx] at hrun
  exact hrun.symm

theorem of_run_eq {q' : Slot} {ts' : List Token} (h : RunsAt x q' ts' after post)
    (hrun : q.run ts = q'.run ts') : RunsAt x q ts after post :=
  ⟨h.1.trans hrun.symm, h.2⟩

theorem bind {mid : α → Slot} {midPost : α → TokenKind → Prop}
    {f : α × List Token → Except Error (β × List Token)} {after : β → Slot}
    {post : β → TokenKind → Prop} (hx : RunsAt x q ts mid midPost)
    (hf : ∀ a rest, x = .ok (a, rest) → midPost a (current rest).kind →
      RunsAt (f (a, rest)) (mid a) rest after post) :
    RunsAt (x >>= f) q ts after post := by
  cases x with
  | error e => exact ⟨hx.1, fun _ _ h => by cases h⟩
  | ok r =>
    obtain ⟨a, rest⟩ := r
    have hf' := hf a rest rfl (hx.2 a rest rfl)
    exact ⟨hf'.1.trans (hx.run_of_ok rfl), hf'.2⟩

end RunsAt

theorem runsAt_ok {b : β} {q : Slot} {ts : List Token} {after : β → Slot}
    {post : β → TokenKind → Prop} (hq : after b = q) (h : post b (current ts).kind) :
    RunsAt (.ok (b, ts)) q ts after post := by
  subst hq
  exact ⟨rfl, fun a rest hx => by cases hx; exact h⟩

theorem runsAt_return {b : β} {q : Slot} {ts : List Token} :
    RunsAt (pure (b, ts)) q ts (fun _ => q) (fun _ _ => True) :=
  runsAt_ok rfl trivial

/-! ## The steps that read one token -/

theorem expect_runsAt_of_kind {k : TokenKind} {m : String} {q r : Slot} {ts : List Token}
    (hc : (current ts).kind = k) (hk : q.next k = some r) (hq : q ≠ .length) :
    RunsAt (expect k m ts) q ts (fun _ => r) (fun _ _ => True) := by
  have hrun : q.run ts = r.run (advance ts) := Slot.run_step (hc ▸ hk) hq
  unfold expect
  rw [if_pos hc]
  exact runsAt_return.of_run_eq hrun

theorem expect_runsAt {k : TokenKind} {m : String} {q r : Slot} {ts : List Token}
    (hk : q.next k = some r) (hplain : q ≠ .start ∧ q ≠ .columnType ∧ q ≠ .length)
    (hm : q.message = m) (hother : ∀ e ∈ q.edges, e.1 = (current ts).kind → e.1 = k) :
    RunsAt (expect k m ts) q ts (fun _ => r) (fun _ _ => True) := by
  by_cases hc : (current ts).kind = k
  · exact expect_runsAt_of_kind hc hk hplain.2.2
  · have hnone : q.next (current ts).kind = none :=
      Slot.next_eq_none.2 fun e he heq => hc (heq.symm.trans (hother e he heq))
    have hdone : q ≠ .done := by
      rintro rfl
      simp at hk
    refine ⟨?_, fun a rest hx => ?_⟩
    · rw [Slot.run_stop hdone hnone, Slot.failure_of_ne hplain.1 hplain.2.1, hm, expect,
        if_neg hc]
      rfl
    · rw [expect, if_neg hc] at hx
      cases hx

theorem expect_runsAt_single {k : TokenKind} {m : String} {q r : Slot} {ts : List Token}
    (hedges : q.edges = [(k, r)]) (hplain : q ≠ .start ∧ q ≠ .columnType ∧ q ≠ .length)
    (hm : q.message = m) : RunsAt (expect k m ts) q ts (fun _ => r) (fun _ _ => True) :=
  expect_runsAt (by simp [Slot.next, hedges]) hplain hm (by simp [hedges])

theorem name_runsAt {m : String} {q r : Slot} {ts : List Token}
    (hk : q.next .identifier = some r) (hplain : q ≠ .start ∧ q ≠ .columnType ∧ q ≠ .length)
    (hm : q.message = m) (hother : ∀ e ∈ q.edges, e.1 = (current ts).kind → e.1 = .identifier) :
    RunsAt (name m ts) q ts (fun _ => r) (fun _ _ => True) := by
  unfold name
  rw [except_map_eq_bind]
  refine RunsAt.bind (expect_runsAt hk hplain hm hother) fun _ _ _ _ => ?_
  dsimp only
  exact runsAt_return

theorem name_runsAt_single {m : String} {q r : Slot} {ts : List Token}
    (hedges : q.edges = [(.identifier, r)]) (hplain : q ≠ .start ∧ q ≠ .columnType ∧ q ≠ .length)
    (hm : q.message = m) : RunsAt (name m ts) q ts (fun _ => r) (fun _ _ => True) :=
  name_runsAt (by simp [Slot.next, hedges]) hplain hm (by simp [hedges])

theorem literal_runsAt {q r : Slot} {ts : List Token}
    (hedges : q.edges = [(.string, r), (.number, r)])
    (hplain : q ≠ .start ∧ q ≠ .columnType ∧ q ≠ .length)
    (hm : q.message = "expected string or number literal") :
    RunsAt (literal ts) q ts (fun _ => r) (fun _ _ => True) := by
  have hdone : q ≠ .done := by
    rintro rfl
    cases hedges
  -- a string or a number is taken, as both edges of the slot lead to `r`
  have htake : (current ts).kind = .string ∨ (current ts).kind = .number →
      RunsAt (.ok ((current ts).text, advance ts)) q ts (fun _ => r) (fun _ _ => True) := by
    intro hk
    have hnext : q.next (current ts).kind = some r := by
      rcases hk with hk | hk <;> rw [hk, Slot.next, hedges] <;> rfl
    exact runsAt_return.of_run_eq (Slot.run_step hnext hplain.2.2)
  unfold literal
  split
  · rename_i hk
    exact htake (.inl hk)
  · rename_i hk
    exact htake (.inr hk)
  · rename_i hs hn
    have hnone : q.next (current ts).kind = none :=
      Slot.next_eq_none.2 (by simpa [hedges] using And.intro (Ne.symm hs) (Ne.symm hn))
    refine ⟨?_, fun _ _ h => by cases h⟩
    rw [Slot.run_stop hdone hnone, Slot.failure_of_ne hplain.1 hplain.2.1, hm]
    rfl

theorem length_runsAt {ts : List Token} {g : Token × List Token → Except Error (β × List Token)}
    {after : β → Slot} {post : β → TokenKind → Prop}
    (hbad : ∀ u rest e, varcharLength u = .error e → g (u, rest) = .error e)
    (hgood : ∀ u rest n, varcharLength u = .ok n →
      RunsAt (g (u, rest)) .lengthClose rest after post) :
    RunsAt (expect .number "expected VARCHAR length" ts >>= g) .length ts after post := by
  by_cases hc : (current ts).kind = .number
  · have hrun : Slot.length.run ts = ((varcharLength (current ts)).map fun _ => ()).bind
        fun _ => Slot.lengthClose.run (advance ts) := by
      rw [Slot.run_eq (by decide), hc]
      rfl
    have hexp : expect .number "expected VARCHAR length" ts = .ok (current ts, advance ts) := by
      rw [expect, if_pos hc]
    rw [hexp, except_ok_bind]
    cases hv : varcharLength (current ts) with
    | error e =>
      have hg := hbad _ (advance ts) e hv
      refine ⟨?_, fun _ _ hx => ?_⟩
      · rw [hrun, hv, hg]
        rfl
      · rw [hg] at hx
        cases hx
    | ok n =>
      have hg := hgood _ (advance ts) n hv
      refine ⟨hg.1.trans ?_, hg.2⟩
      rw [hrun, hv]
      rfl
  · have hnone : Slot.length.next (current ts).kind = none :=
      Slot.next_eq_none.2 (by simpa [Slot.edges] using Ne.symm hc)
    refine ⟨?_, fun _ _ hx => ?_⟩
    · rw [Slot.run_stop (by decide) hnone, expect, if_neg hc]
      rfl
    · rw [expect, if_neg hc] at hx
      cases hx

/-! ## Types, columns, lists, filters and select lists -/

theorem dataType_runsAt (ts : List Token) :
    RunsAt (dataType ts) .columnType ts (fun _ => .columnEnd) (fun _ _ => True) := by
  unfold dataType
  split
  · rename_i hk
    exact runsAt_return.of_run_eq (Slot.run_step (by rw [hk]; rfl) (by decide))
  · rename_i hk
    have hrun : Slot.columnType.run ts = Slot.lengthOpen.run (advance ts) :=
      Slot.run_step (by rw [hk]; rfl) (by decide)
    refine RunsAt.of_run_eq ?_ hrun
    refine RunsAt.bind (expect_runsAt_single rfl (by decide) rfl) fun _ ts₁ _ _ => ?_
    refine length_runsAt (fun u rest e hv => ?_) (fun u rest n hv => ?_)
    · simp only [hv]
      rfl
    · simp only [hv, except_ok_bind]
      exact RunsAt.bind (expect_runsAt_single rfl (by decide) rfl) fun _ _ _ _ => runsAt_return
  · rename_i hint hvar
    have hnone : Slot.columnType.next (current ts).kind = none :=
      Slot.next_eq_none.2 (by simpa [Slot.edges] using ⟨Ne.symm hint, Ne.symm hvar⟩)
    refine ⟨?_, fun _ _ h => by cases h⟩
    rw [Slot.run_stop (by decide) hnone, Slot.failure_columnType]
    rfl

theorem column_runsAt (ts : List Token) :
    RunsAt (column ts) .columnName ts (fun _ => .columnEnd) (fun _ _ => True) := by
  have hname : RunsAt (name "expected column name" ts) .columnName ts (fun _ => .columnType)
      (fun _ _ => True) :=
    name_runsAt_single rfl (by decide) rfl
  unfold column
  cases hn : name "expected column name" ts with
  | error e => exact ⟨(hname.run_of_error hn).symm, fun _ _ h => by cases h⟩
  | ok p =>
    obtain ⟨n, rest⟩ := p
    dsimp only
    rw [except_map_eq_bind]
    refine RunsAt.of_run_eq ?_ (hname.run_of_ok hn).symm
    refine RunsAt.bind (dataType_runsAt rest) fun _ _ _ _ => ?_
    dsimp only
    exact runsAt_return

theorem assignment_runsAt (ts : List Token) :
    RunsAt (assignment ts) .assignColumn ts (fun _ => .assignEnd) (fun _ _ => True) := by
  unfold assignment
  refine RunsAt.bind (name_runsAt_single rfl (by decide) rfl) fun _ ts₁ _ _ => ?_
  refine RunsAt.bind (expect_runsAt_single rfl (by decide) rfl) fun _ ts₂ _ _ => ?_
  refine RunsAt.bind (literal_runsAt rfl (by decide) rfl) fun _ _ _ _ => ?_
  dsimp only
  exact runsAt_return

section CommaList

variable {item : List Token → Except Error (α × List Token)} {c : Consumes item}

theorem commaList_runsAt {qi qe : Slot}
    (hitem : ∀ ts, RunsAt (item ts) qi ts (fun _ => qe) (fun _ _ => True))
    (hcomma : qe.next .comma = some qi) (hqe : qe ≠ .length) {q : Slot} {ts : List Token}
    (hfirst : RunsAt (item ts) q ts (fun _ => qe) (fun _ _ => True)) :
    RunsAt (commaList item c ts) q ts (fun _ => qe) (fun _ k => k ≠ .comma) := by
  -- induction along the recursion of `commaList`: after a comma the rest is a list read at `qi`
  induction ts using commaList.induct item c generalizing q with
  | case1 ts e he =>
    rw [commaList_of_error he]
    exact ⟨(hfirst.run_of_error he).symm, fun _ _ h => by cases h⟩
  | case2 ts a rest h₁ _ hc more after hmore ih =>
    have hlist := ih (hitem _)
    have hstep : qe.run rest = qi.run (advance rest) := Slot.run_step (hc ▸ hcomma) hqe
    rw [hmore] at hlist
    rw [commaList_of_comma h₁ hc, hmore]
    refine ⟨?_, fun _ _ h => ?_⟩
    · calc qe.run after = qi.run (advance rest) := hlist.run_of_ok rfl
        _ = qe.run rest := hstep.symm
        _ = q.run ts := hfirst.run_of_ok h₁
    · obtain ⟨-, rfl⟩ := Prod.mk.inj (Except.ok.inj h)
      exact hlist.2 _ _ rfl
  | case3 ts a rest h₁ _ hc e he ih =>
    have hlist := ih (hitem _)
    have hstep : qe.run rest = qi.run (advance rest) := Slot.run_step (hc ▸ hcomma) hqe
    rw [he] at hlist
    rw [commaList_of_comma h₁ hc, he]
    refine ⟨?_, fun _ _ h => by cases h⟩
    calc Except.error e = qi.run (advance rest) := (hlist.run_of_error rfl).symm
      _ = qe.run rest := hstep.symm
      _ = q.run ts := hfirst.run_of_ok h₁
  | case4 ts a rest h₁ _ hc =>
    rw [commaList_of_end h₁ hc]
    exact ⟨hfirst.run_of_ok h₁, fun _ _ h => by cases h; exact hc⟩

end CommaList

theorem filter_runsAt {q : Slot} {ts : List Token} {P : TokenKind → Prop}
    (hwhere : q.next .«where» = some .whereColumn) (hq : q ≠ .length) (hP : P (current ts).kind) :
    RunsAt (filter ts) q ts q.afterFilter (fun c k => c = none → k ≠ .«where» ∧ P k) := by
  unfold filter
  by_cases hc : (current ts).kind = .«where»
  · rw [if_pos hc]
    refine RunsAt.of_run_eq ?_ (Slot.run_step (hc ▸ hwhere) hq)
    refine RunsAt.bind (name_runsAt_single rfl (by decide) rfl) fun column ts₁ _ _ => ?_
    dsimp only
    cases hop : compareOp? (current ts₁).kind with
    | some op =>
      have hrun : Slot.whereOp.run ts₁ = Slot.whereValue.run (advance ts₁) :=
        Slot.run_step (by rw [Slot.next_whereOp, hop]; rfl) (by decide)
      refine RunsAt.of_run_eq ?_ hrun
      refine RunsAt.bind (literal_runsAt rfl (by decide) rfl) fun _ _ _ _ => ?_
      dsimp only
      refine runsAt_ok rfl fun h => ?_
      cases h
    | none =>
      have hnone : Slot.whereOp.next (current ts₁).kind = none := by
        rw [Slot.next_whereOp, hop]
        rfl
      refine ⟨?_, fun _ _ h => by cases h⟩
      rw [Slot.run_stop (by decide) hnone, Slot.failure_of_ne (by decide) (by decide)]
      rfl
  · rw [if_neg hc]
    exact runsAt_ok rfl fun _ => ⟨hc, hP⟩

theorem projection_runsAt (ts : List Token) :
    RunsAt (projection ts) .selectList ts Slot.afterProjection
      (fun p k => p ≠ .all → k ≠ .comma) := by
  unfold projection
  by_cases hc : (current ts).kind = .asterisk
  · rw [if_pos hc]
    have hrun : Slot.selectList.run ts = Slot.selectFrom.run (advance ts) :=
      Slot.run_step (by rw [hc]; rfl) (by decide)
    exact (runsAt_ok rfl fun h => absurd rfl h).of_run_eq hrun
  · rw [if_neg hc, except_map_eq_bind]
    have hname : ∀ ts, RunsAt (name "expected column name or '*'" ts) .selectName ts
        (fun _ => .selectNext) (fun _ _ => True) :=
      fun _ => name_runsAt_single rfl (by decide) rfl
    have hfirst : RunsAt (name "expected column name or '*'" ts) .selectList ts
        (fun _ => .selectNext) (fun _ _ => True) :=
      name_runsAt rfl (by decide) rfl (by simpa [Slot.edges] using Ne.symm hc)
    refine RunsAt.bind (commaList_runsAt (c := name_consumes _) hname rfl (by decide) hfirst)
      fun _ _ _ hend => ?_
    exact runsAt_ok rfl fun _ => hend

theorem semicolon_runsAt {q : Slot} {c : Option Comparison} {ts : List Token}
    (hq : q.next .semicolon = some .done) (hplain : q ≠ .start ∧ q ≠ .columnType ∧ q ≠ .length)
    (hm : q.message = "expected ';'")
    (hother : c = none → ∀ e ∈ q.edges, e.1 = (current ts).kind → e.1 = .semicolon) :
    RunsAt (expect .semicolon "expected ';'" ts) (q.afterFilter c) ts (fun _ => .done)
      (fun _ _ => True) := by
  cases c with
  | none => exact expect_runsAt hq hplain hm (hother rfl)
  | some c => exact expect_runsAt_single (q := .statementEnd) rfl (by decide) rfl

/-! ## Statements -/

theorem createTable_runsAt {ts : List Token} (hc : (current ts).kind = .create) :
    RunsAt (createTable ts) .start ts (fun _ => .done) (fun _ _ => True) := by
  unfold createTable
  refine RunsAt.bind (expect_runsAt_of_kind hc rfl (by decide)) fun _ ts₁ _ _ => ?_
  refine RunsAt.bind (expect_runsAt_single rfl (by decide) rfl) fun _ ts₂ _ _ => ?_
  refine RunsAt.bind (name_runsAt_single rfl (by decide) rfl) fun _ ts₃ _ _ => ?_
  refine RunsAt.bind (expect_runsAt_single rfl (by decide) rfl) fun _ ts₄ _ _ => ?_
  refine RunsAt.bind (commaList_runsAt column_runsAt rfl (by decide) (column_runsAt ts₄))
    fun _ ts₅ _ hend => ?_
  refine RunsAt.bind
    (expect_runsAt rfl (by decide) rfl (by simpa [Slot.edges] using Ne.symm hend))
    fun _ ts₆ _ _ => ?_
  refine RunsAt.bind (expect_runsAt_single rfl (by decide) rfl) fun _ ts₇ _ _ => ?_
  exact runsAt_return

theorem insert_runsAt {ts : List Token} (hc : (current ts).kind = .insert) :
    RunsAt (insert ts) .start ts (fun _ => .done) (fun _ _ => True) := by
  unfold insert
  refine RunsAt.bind (expect_runsAt_of_kind hc rfl (by decide)) fun _ ts₁ _ _ => ?_
  refine RunsAt.bind (expect_runsAt_single rfl (by decide) rfl) fun _ ts₂ _ _ => ?_
  refine RunsAt.bind (name_runsAt_single rfl (by decide) rfl) fun _ ts₃ _ _ => ?_
  refine RunsAt.bind (expect_runsAt_single rfl (by decide) rfl) fun _ ts₄ _ _ => ?_
  refine RunsAt.bind (expect_runsAt_single rfl (by decide) rfl) fun _ ts₅ _ _ => ?_
  have hvalue : ∀ ts, RunsAt (literal ts) .value ts (fun _ => .valueEnd) (fun _ _ => True) :=
    fun _ => literal_runsAt rfl (by decide) rfl
  refine RunsAt.bind (commaList_runsAt hvalue rfl (by decide) (hvalue ts₅)) fun _ ts₆ _ hend => ?_
  refine RunsAt.bind
    (expect_runsAt rfl (by decide) rfl (by simpa [Slot.edges] using Ne.symm hend))
    fun _ ts₇ _ _ => ?_
  refine RunsAt.bind (expect_runsAt_single rfl (by decide) rfl) fun _ ts₈ _ _ => ?_
  exact runsAt_return

theorem select_runsAt {ts : List Token} (hc : (current ts).kind = .select) :
    RunsAt (select ts) .start ts (fun _ => .done) (fun _ _ => True) := by
  unfold select
  refine RunsAt.bind (expect_runsAt_of_kind hc rfl (by decide)) fun _ ts₁ _ _ => ?_
  refine RunsAt.bind (projection_runsAt ts₁) fun proj ts₂ _ hproj => ?_
  -- FROM follows either select list; after names the token is no comma
  have hfrom : RunsAt (expect .«from» "expected FROM" ts₂) (Slot.afterProjection proj) ts₂
      (fun _ => .selectTable) (fun _ _ => True) := by
    cases proj with
    | all => exact expect_runsAt_single (q := .selectFrom) rfl (by decide) rfl
    | columns names =>
      exact expect_runsAt (q := .selectNext) rfl (by decide) rfl
        (by simpa [Slot.edges] using Ne.symm (hproj (by intro h; cases h)))
  refine RunsAt.bind hfrom fun _ ts₃ _ _ => ?_
  refine RunsAt.bind (name_runsAt_single rfl (by decide) rfl) fun _ ts₄ _ _ => ?_
  refine RunsAt.bind (filter_runsAt (P := fun _ => True) rfl (by decide) trivial)
    fun _ ts₅ _ hcond => ?_
  refine RunsAt.bind (semicolon_runsAt rfl (by decide) rfl
      fun hnone => by simpa [Slot.edges] using Ne.symm (hcond hnone).1) fun _ ts₆ _ _ => ?_
  exact runsAt_return

theorem update_runsAt {ts : List Token} (hc : (current ts).kind = .update) :
    RunsAt (update ts) .start ts (fun _ => .done) (fun _ _ => True) := by
  unfold update
  refine RunsAt.bind (expect_runsAt_of_kind hc rfl (by decide)) fun _ ts₁ _ _ => ?_
  refine RunsAt.bind (name_runsAt_single rfl (by decide) rfl) fun _ ts₂ _ _ => ?_
  refine RunsAt.bind (expect_runsAt_single rfl (by decide) rfl) fun _ ts₃ _ _ => ?_
  refine RunsAt.bind (commaList_runsAt assignment_runsAt rfl (by decide) (assignment_runsAt ts₃))
    fun _ ts₄ _ hend => ?_
  -- after the assignments comes a WHERE or the `;`: the token is no comma either way
  refine RunsAt.bind (filter_runsAt (P := (· ≠ .comma)) rfl (by decide) hend)
    fun _ ts₅ _ hcond => ?_
  refine RunsAt.bind (semicolon_runsAt rfl (by decide) rfl fun hnone => ?_) fun _ ts₆ _ _ => ?_
  · obtain ⟨hwhere, hcomma⟩ := hcond hnone
    simpa [Slot.edges] using And.intro (Ne.symm hcomma) (Ne.symm hwhere)
  · exact runsAt_return

theorem map_of_runsAt {x : Except Error (Statement × List Token)} {ts : List Token}
    {post : Statement → TokenKind → Prop} (h : RunsAt x .start ts (fun _ => .done) post) :
    (x.map (·.1)).map (fun _ => ()) = Slot.start.run ts := by
  rw [← h.1]
  cases x with
  | error e => rfl
  | ok r => rw [except_ok_bind, Slot.run.eq_1]; rfl

/-- A statement fails exactly as the run of the automaton from the start does, and parses
exactly when that run ends well. -/
theorem statement_runs (ts : List Token) :
    (statement ts).map (fun _ => ()) = Slot.start.run ts := by
  unfold statement
  dsimp only
  -- the first token chooses the production, as the start slot chooses its edge
  split
  · rename_i hc
    exact map_of_runsAt (createTable_runsAt hc)
  · rename_i hc
    exact map_of_runsAt (insert_runsAt hc)
  · rename_i hc
    exact map_of_runsAt (select_runsAt hc)
  · rename_i hc
    exact map_of_runsAt (update_runsAt hc)
  · rename_i h₁ h₂ h₃ h₄
    have hnone : Slot.start.next (current ts).kind = none :=
      Slot.next_eq_none.2 (by simpa [Slot.edges] using
        ⟨Ne.symm h₁, Ne.symm h₂, Ne.symm h₃, Ne.symm h₄⟩)
    rw [Slot.run_stop (by decide) hnone, Slot.failure_start]
    rfl

theorem statement_eq_error_iff {ts : List Token} {e : Error} :
    statement ts = .error e ↔ Slot.start.run ts = .error e := by
  rw [← statement_runs]
  cases statement ts with
  | error e' => simp [Except.map]
  | ok s => simp [Except.map]

/-! ## Viable prefixes -/

/-- A list of kinds is viable when some sentence begins with it. -/
def Viable (ks : List TokenKind) : Prop :=
  ∃ ls s, Sentence ls s ∧ ks <+: ls.map Prod.fst

theorem Viable.of_prefix {ks ks' : List TokenKind} (h : Viable ks') (hp : ks <+: ks') :
    Viable ks := by
  obtain ⟨ls, s, hs, hks'⟩ := h
  exact ⟨ls, s, hs, hp.trans hks'⟩

/-- The viable lists of kinds are exactly those the automaton walks from the start. -/
theorem viable_iff_walk (ks : List TokenKind) : Viable ks ↔ (Slot.start.walk ks).isSome := by
  constructor
  · rintro ⟨ls, s, hs, rest, hrest⟩
    have hwalk := Slot.walk_sentence hs
    rw [← hrest, Slot.walk_append] at hwalk
    cases hw : Slot.start.walk ks with
    | none =>
      rw [hw] at hwalk
      cases hwalk
    | some q => rfl
  · intro h
    obtain ⟨q, hq⟩ := Option.isSome_iff_exists.1 h
    -- finish the statement from where the walk stands, and parse tokens of those kinds
    have hdone : Slot.start.walk (ks ++ q.fill) = some .done := by
      rw [Slot.walk_append_of hq, Slot.walk_fill]
    let toks : List Token := (ks ++ q.fill).map fun k => ⟨k, "1", 0⟩
    have hkinds : toks.map Token.kind = ks ++ q.fill := by
      simp [toks, Function.comp_def]
    have hone : Text.parseWord? "1" = some 1 := by decide
    have hlengths : ∀ t ∈ toks, ∃ n, varcharLength t = .ok n := by
      intro t ht
      obtain ⟨k, -, rfl⟩ := List.mem_map.1 ht
      exact ⟨1, varcharLength_of hone (by decide)⟩
    have hrun : Slot.start.run (toks ++ [Token.eof 0]) = .ok () := by
      rw [Slot.run_append_cons [] (by rw [hkinds]; exact hdone) (Slot.next_done _),
        Slot.badLength_eq_none hlengths]
      rfl
    obtain ⟨s, hs⟩ : ∃ s, statement (toks ++ [Token.eof 0]) = .ok s := by
      have hmap := statement_runs (toks ++ [Token.eof 0])
      rw [hrun] at hmap
      cases hst : statement (toks ++ [Token.eof 0]) with
      | error e =>
        rw [hst] at hmap
        cases hmap
      | ok s => exact ⟨s, rfl⟩
    obtain ⟨ws, rest, hsplit, hsentence⟩ := statement_sound hs
    have hws : Slot.start.walk (ws.map Token.kind) = some .done := by
      simpa [Token.lexeme, Function.comp_def] using Slot.walk_sentence hsentence
    -- the sentence read is all of the tokens: two walks that each end a statement, one a
    -- prefix of the other, are equal
    have hprefix : ws.map Token.kind <+: (ks ++ q.fill) ++ [TokenKind.eof] :=
      ⟨rest.map Token.kind, by rw [← List.map_append, ← hsplit, List.map_append, hkinds]; rfl⟩
    have heq : ws.map Token.kind = ks ++ q.fill := by
      rcases List.prefix_or_prefix_of_prefix hprefix (List.prefix_append _ [TokenKind.eof]) with
        ⟨c, hc⟩ | ⟨c, hc⟩
      · rw [← hc] at hdone
        rw [Slot.eq_of_walk_done hws hdone, List.append_nil] at hc
        exact hc
      · rw [← hc] at hws
        rw [Slot.eq_of_walk_done hdone hws, List.append_nil] at hc
        exact hc.symm
    refine ⟨ws.map Token.lexeme, s, hsentence, ?_⟩
    have hfst : (ws.map Token.lexeme).map Prod.fst = ws.map Token.kind := by
      simp [Token.lexeme, Function.comp_def]
    rw [hfst, heq]
    exact List.prefix_append ks q.fill

instance : DecidablePred Viable := fun ks => decidable_of_iff _ (viable_iff_walk ks).symm

theorem viable_of_walk {ks : List TokenKind} {q : Slot} (h : Slot.start.walk ks = some q) :
    Viable ks :=
  (viable_iff_walk ks).2 (by simp [h])

theorem not_viable_of_walk {ks : List TokenKind} {q : Slot} {k : TokenKind}
    (h : Slot.start.walk ks = some q) (hk : q.next k = none) : ¬Viable (ks ++ [k]) := by
  rw [viable_iff_walk, Slot.walk_append_of h]
  simp [hk]

/-! ## Where a parse fails -/

/-- What the parser says it expected after a viable list of kinds: the message of the slot the
list leads to. -/
def expectedAfter (ks : List TokenKind) : String := ((Slot.start.walk ks).map Slot.message).getD ""

/-- The error of a parse whose input is viable up to `pre` and no further, `t` being the token
after `pre`: an invalid VARCHAR length of `pre` if there is one, and otherwise an error naming
`t` of the kind its place calls for. -/
def syntaxError (pre : List Token) (t : Token) : Error :=
  match Slot.start.badLength pre with
  | some u => .invalidLength u.text
  | none =>
    if pre = [] then .unknownStatement t.describe
    else if Viable (pre.map Token.kind ++ [.int]) then .unknownDataType t.describe
    else .unexpectedToken (expectedAfter (pre.map Token.kind)) t.describe

theorem failure_eq_syntaxError {pre : List Token} {r : Slot} (t : Token)
    (hwalk : Slot.start.walk (pre.map Token.kind) = some r)
    (hb : Slot.start.badLength pre = none) : r.failure t = syntaxError pre t := by
  unfold syntaxError
  rw [hb]
  dsimp only
  by_cases hpre : pre = []
  · subst hpre
    obtain rfl : r = .start := (Option.some.inj hwalk).symm
    rfl
  · have hr : r ≠ .start := fun h =>
      hpre (List.map_eq_nil_iff.1 (Slot.eq_nil_of_walk_start (h ▸ hwalk)))
    -- only a column's type takes an INT next
    have hint : Viable (pre.map Token.kind ++ [.int]) ↔ r = .columnType := by
      rw [viable_iff_walk, Slot.walk_append_of hwalk, ← Slot.next_int_isSome r, Slot.walk_cons]
      cases r.next .int <;> rfl
    rw [if_neg hpre]
    by_cases hcol : r = .columnType
    · rw [if_pos (hint.2 hcol), hcol]
      rfl
    · rw [if_neg (mt hint.1 hcol), Slot.failure_of_ne hr hcol]
      simp [expectedAfter, hwalk]

theorem exists_eof_withEnd (L : List Token) : ∃ t ∈ withEnd L, t.kind = .eof := by
  unfold withEnd
  split
  · rename_i t hlast
    split
    · rename_i ht
      exact ⟨t, List.mem_of_getLast? hlast, ht⟩
    · exact ⟨Token.eof (t.pos + t.text.length), by simp, rfl⟩
  · exact ⟨Token.eof 0, by simp, rfl⟩

/-- Syntax errors point at the first offending token. A parse that fails cuts its input into
the longest viable prefix `pre` of its kinds, the token `t` after it, and the rest. The error
is an invalid VARCHAR length if `pre` holds one, which no list of kinds can show; otherwise it
names `t`: as an unknown statement when `pre` is empty, as an unknown data type where a type
was expected, and with the message of the step that expected `t` everywhere else. -/
theorem parseTokens_error_at_first_offending_token (L : List Token) (e : Error)
    (h : parseTokens L = .error e) :
    ∃ pre t post, withEnd L = pre ++ t :: post ∧
      Viable (pre.map Token.kind) ∧ ¬Viable (pre.map Token.kind ++ [t.kind]) ∧
      (∀ n, Viable (((withEnd L).take n).map Token.kind) → n ≤ pre.length) ∧
      e = syntaxError pre t := by
  have hrun : Slot.start.run (withEnd L) = .error e := statement_eq_error_iff.1 h
  obtain ⟨pre, t, post, r, hL, hwalk, ht⟩ := Slot.exists_stuck .start (exists_eof_withEnd L)
  have hsplit := Slot.run_append_cons post hwalk ht
  rw [← hL, hrun] at hsplit
  have hnot := not_viable_of_walk hwalk ht
  refine ⟨pre, t, post, hL, viable_of_walk hwalk, hnot, fun n hn => ?_, ?_⟩
  · -- a longer prefix would hold `pre` and `t`
    refine Nat.le_of_not_lt fun hlt => hnot (hn.of_prefix ?_)
    have htake : (withEnd L).take (pre.length + 1) = pre ++ [t] := by
      simp [hL, List.take_append, List.take_of_length_le]
    have hprefix : pre ++ [t] <+: (withEnd L).take n := htake ▸ List.take_prefix_take_left hlt
    simpa using hprefix.map Token.kind
  · cases hb : Slot.start.badLength pre with
    | some u =>
      simp only [hb] at hsplit
      simp only [syntaxError, hb]
      exact Except.error.inj hsplit
    | none =>
      rw [hb] at hsplit
      by_cases hr : r = .done
      · rw [if_pos hr] at hsplit
        cases hsplit
      · rw [if_neg hr] at hsplit
        rw [Except.error.inj hsplit, failure_eq_syntaxError t hwalk hb]

theorem select_missing_comma_located :
    parseTokens [⟨.select, "SELECT", 0⟩, ⟨.identifier, "a", 7⟩, ⟨.identifier, "b", 9⟩,
        ⟨.«from», "FROM", 11⟩, ⟨.identifier, "t", 16⟩, ⟨.semicolon, ";", 17⟩] =
        .error (.unexpectedToken "expected FROM" "b") ∧
      ∃ pre t post,
        withEnd [⟨.select, "SELECT", 0⟩, ⟨.identifier, "a", 7⟩, ⟨.identifier, "b", 9⟩,
            ⟨.«from», "FROM", 11⟩, ⟨.identifier, "t", 16⟩, ⟨.semicolon, ";", 17⟩] =
          pre ++ t :: post ∧
        Viable (pre.map Token.kind) ∧ ¬Viable (pre.map Token.kind ++ [t.kind]) ∧
        (∀ n, Viable (((withEnd [⟨.select, "SELECT", 0⟩, ⟨.identifier, "a", 7⟩,
            ⟨.identifier, "b", 9⟩, ⟨.«from», "FROM", 11⟩, ⟨.identifier, "t", 16⟩,
            ⟨.semicolon, ";", 17⟩]).take n).map Token.kind) → n ≤ pre.length) ∧
        Error.unexpectedToken "expected FROM" "b" = syntaxError pre t :=
  have h : parseTokens [⟨.select, "SELECT", 0⟩, ⟨.identifier, "a", 7⟩, ⟨.identifier, "b", 9⟩,
      ⟨.«from», "FROM", 11⟩, ⟨.identifier, "t", 16⟩, ⟨.semicolon, ";", 17⟩] =
      .error (.unexpectedToken "expected FROM" "b") :=
    statement_eq_error_iff.2 rfl
  ⟨h, parseTokens_error_at_first_offending_token _ _ h⟩

/-- A zero VARCHAR length fails the parse after the rest of the statement is read. -/
example : parseTokens [⟨.create, "CREATE", 0⟩, ⟨.table, "TABLE", 7⟩, ⟨.identifier, "t", 13⟩,
    ⟨.leftParen, "(", 15⟩, ⟨.identifier, "a", 16⟩, ⟨.varchar, "VARCHAR", 18⟩,
    ⟨.leftParen, "(", 25⟩, ⟨.number, "0", 26⟩, ⟨.rightParen, ")", 27⟩, ⟨.rightParen, ")", 28⟩,
    ⟨.semicolon, ";", 29⟩] = .error (.invalidLength "0") :=
  statement_eq_error_iff.2 rfl

end TinySql.Sql
