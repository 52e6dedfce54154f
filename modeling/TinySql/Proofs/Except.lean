import Mathlib.Data.List.Forall2

/-!
What a successful computation in `Except` returns: a bind succeeds when both of its steps do,
and a `mapM` that succeeds relates each input to its output. And what a failed one can fail
with: a computation built from steps that each fail only with errors of one kind fails only
with errors of that kind.
-/

namespace TinySql

theorem except_bind_eq_ok {ε α β : Type} {x : Except ε α} {f : α → Except ε β} {b : β} :
    x >>= f = .ok b ↔ ∃ a, x = .ok a ∧ f a = .ok b := by
  cases x <;> simp [bind, Except.bind]

@[simp] theorem except_ok_bind {ε α β : Type} (a : α) (f : α → Except ε β) :
    (Except.ok a >>= f) = f a := rfl

theorem except_map_eq_bind {ε α β : Type} (x : Except ε α) (g : α → β) :
    x.map g = x >>= fun a => pure (g a) := by
  cases x <;> rfl

theorem except_map_map {ε α β γ : Type} (x : Except ε α) (h₁ : α → β) (h₂ : β → γ) :
    (x.map h₁).map h₂ = x.map (h₂ ∘ h₁) := by
  cases x <;> rfl

theorem forall₂_of_mapM {ε α β : Type} {f : α → Except ε β} :
    ∀ {l : List α} {l' : List β}, l.mapM f = .ok l' → List.Forall₂ (fun a b => f a = .ok b) l l'
  | [], l', h => by
    simp only [List.mapM_nil, pure, Except.pure, Except.ok.injEq] at h
    subst h
    exact .nil
  | a :: l, l', h => by
    rw [List.mapM_cons] at h
    obtain ⟨b, hb, h⟩ := except_bind_eq_ok.1 h
    obtain ⟨bs, hbs, h⟩ := except_bind_eq_ok.1 h
    simp only [pure, Except.pure, Except.ok.injEq] at h
    subst h
    exact .cons hb (forall₂_of_mapM hbs)

theorem eq_ok_of_toOption {ε α : Type} {x : Except ε α} {a : α} (h : x.toOption = some a) :
    x = .ok a := by
  cases x with
  | error e => cases h
  | ok b =>
    cases h
    rfl

/-- The error of the first computation of a list that failed, in order. -/
def firstError {ε α : Type} : List (Except ε α) → Option ε
  | [] => none
  | .error e :: _ => some e
  | .ok _ :: rest => firstError rest

section FirstError

variable {ε α β : Type} (f : α → Except ε β)

theorem mapM_eq_error_of_firstError :
    ∀ {l : List α} {e : ε}, firstError (l.map f) = some e → l.mapM f = .error e
  | [], _, h => by cases h
  | a :: l, e, h => by
    rw [List.mapM_cons]
    cases hf : f a with
    | error e' =>
      simp only [List.map_cons, hf, firstError, Option.some.injEq] at h
      subst h
      rfl
    | ok b =>
      simp only [List.map_cons, hf, firstError] at h
      simp only [mapM_eq_error_of_firstError h, bind, Except.bind]

theorem mapM_eq_ok_of_firstError :
    ∀ {l : List α}, firstError (l.map f) = none →
      l.mapM f = .ok ((l.map f).filterMap Except.toOption)
  | [], _ => rfl
  | a :: l, h => by
    rw [List.mapM_cons]
    cases hf : f a with
    | error e => simp [hf, firstError] at h
    | ok b =>
      simp only [List.map_cons, hf, firstError] at h
      simp only [mapM_eq_ok_of_firstError h, List.map_cons, hf, List.filterMap_cons,
        Except.toOption, bind, Except.bind, pure, Except.pure]

end FirstError

section FilterM

variable {ε α : Type} {p : α → Except ε Bool}

theorem filterM_eq_ok {q : α → Bool} {l : List α} (h : ∀ a ∈ l, p a = .ok (q a)) :
    l.filterM p = .ok (l.filter q) := by
  -- `filterM` keeps the accepted elements last first, then reverses them
  have aux : ∀ (l acc : List α), (∀ a ∈ l, p a = .ok (q a)) →
      List.filterAuxM p l acc = .ok ((l.filter q).reverse ++ acc) := by
    intro l
    induction l with
    | nil => exact fun acc _ => rfl
    | cons a l ih =>
      intro acc hl
      rw [List.filterAuxM.eq_2, hl a List.mem_cons_self]
      simp only [bind, Except.bind]
      rw [ih _ fun b hb => hl b (List.mem_cons_of_mem a hb)]
      cases hq : q a <;> simp [hq]
  simp [List.filterM, aux l [] h, bind, Except.bind, pure, Except.pure]

theorem filterM_cons_eq_error {a : α} {l : List α} {e : ε} (h : p a = .error e) :
    (a :: l).filterM p = .error e := by
  simp [List.filterM, List.filterAuxM.eq_2, h, bind, Except.bind]

theorem filterM_append_cons_eq_error {pre : List α} {a : α} {e : ε}
    (hpre : ∀ x ∈ pre, ∃ b, p x = .ok b) (ha : p a = .error e) (post : List α) :
    (pre ++ a :: post).filterM p = .error e := by
  have aux : ∀ (pre acc : List α), (∀ x ∈ pre, ∃ b, p x = .ok b) →
      List.filterAuxM p (pre ++ a :: post) acc = .error e := by
    intro pre
    induction pre with
    | nil =>
      intro acc _
      simp [List.filterAuxM.eq_2, ha, bind, Except.bind]
    | cons x pre ih =>
      intro acc hx
      obtain ⟨b, hb⟩ := hx x List.mem_cons_self
      rw [List.cons_append, List.filterAuxM.eq_2, hb]
      exact ih _ fun y hy => hx y (List.mem_cons_of_mem x hy)
  simp [List.filterM, aux pre [] hpre, bind, Except.bind]

end FilterM

/-- A computation that, if it fails, fails with an error satisfying `P`. -/
def FailsOnly {ε α : Type} (P : ε → Prop) (x : Except ε α) : Prop := ∀ e, x = .error e → P e

section FailsOnly

variable {ε α β : Type} {P : ε → Prop}

theorem failsOnly_ok (a : α) : FailsOnly P (.ok a : Except ε α) := by
  intro e h
  cases h

theorem failsOnly_bind {x : Except ε α} {f : α → Except ε β} (hx : FailsOnly P x)
    (hf : ∀ a, x = .ok a → FailsOnly P (f a)) : FailsOnly P (x >>= f) := by
  intro e h
  cases x with
  | error e' =>
    cases h
    exact hx e rfl
  | ok a => exact hf a rfl e h

theorem failsOnly_map {x : Except ε α} (g : α → β) (hx : FailsOnly P x) :
    FailsOnly P (x.map g) := by
  intro e h
  cases x with
  | error e' => cases h; exact hx e rfl
  | ok a => cases h

theorem failsOnly_mapM {f : α → Except ε β} (hf : ∀ a, FailsOnly P (f a)) :
    ∀ l : List α, FailsOnly P (l.mapM f)
  | [] => failsOnly_ok _
  | a :: l => by
    rw [List.mapM_cons]
    exact failsOnly_bind (hf a) fun b _ =>
      failsOnly_bind (failsOnly_mapM hf l) fun bs _ => failsOnly_ok (b :: bs)

theorem failsOnly_foldlM {f : β → α → Except ε β} (hf : ∀ b a, FailsOnly P (f b a)) :
    ∀ (l : List α) (init : β), FailsOnly P (l.foldlM f init)
  | [], init => failsOnly_ok init
  | a :: l, init => by
    rw [List.foldlM_cons]
    exact failsOnly_bind (hf init a) fun b _ => failsOnly_foldlM hf l b

theorem failsOnly_filterM {p : α → Except ε Bool} (hp : ∀ a, FailsOnly P (p a))
    (l : List α) : FailsOnly P (l.filterM p) := by
  -- `filterM` keeps the accepted elements last first, then reverses them
  have aux : ∀ (l acc : List α), FailsOnly P (List.filterAuxM p l acc) := by
    intro l
    induction l with
    | nil => exact fun acc => failsOnly_ok acc
    | cons a l ih =>
      intro acc
      rw [List.filterAuxM.eq_2]
      exact failsOnly_bind (hp a) fun b _ => ih _
  exact failsOnly_bind (aux l []) fun acc _ => failsOnly_ok acc.reverse

end FailsOnly

end TinySql
