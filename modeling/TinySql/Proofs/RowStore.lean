import Mathlib.Data.List.Forall2
import TinySql.Store
import TinySql.Proofs.Except
import TinySql.Proofs.UpdateOutcome

/-!
What the row store does to every list of rows, under every filter and every change, including
those that fail partway. Scans, updates and deletions visit the rows in storage order. A visit
that succeeds on a prefix of the rows is described row by row; the first row on which the filter
or the change fails ends the operation with that error, the rows before it in their new state
and it and every later row as they were. The row store never reorders, duplicates or loses a
row, and changing a row through `Row.set` keeps its length.
-/

namespace TinySql

namespace Row

@[simp] theorem length_set (r : Row) (i : Nat) (v : Value) :
    (r.set i v).values.length = r.values.length := by
  simp [set]

@[simp] theorem length_setAll (r : Row) (pairs : List (Nat × Value)) :
    (r.setAll pairs).values.length = r.values.length := by
  induction pairs generalizing r with
  | nil => rfl
  | cons p pairs ih =>
    simp only [setAll, List.foldl_cons] at ih ⊢
    rw [ih, length_set]

end Row

namespace Store

variable {f : RowFilter} {u : RowUpdate} {keep : Row → Bool} {g : Row → Row}

/-! ## Deleting -/

theorem deleteRows_append {pre : List Row} (hpre : ∀ r ∈ pre, f r = .ok (keep r))
    (rest : List Row) :
    deleteRows f (pre ++ rest) =
      (pre.filter (!keep ·) ++ (deleteRows f rest).1,
        (deleteRows f rest).2.map (· + pre.countP keep)) := by
  induction pre with
  | nil => rcases hrest : deleteRows f rest with ⟨rows, _ | n⟩ <;> simp [hrest, Except.map]
  | cons r pre ih =>
    have ih := ih fun a ha => hpre a (List.mem_cons_of_mem r ha)
    rw [List.cons_append, deleteRows, hpre r List.mem_cons_self]
    cases hk : keep r with
    | false => simp [ih, hk]
    | true => simp [ih, hk, except_map_map, Function.comp_def, Nat.add_assoc]

theorem deleteRows_cons_of_error {r : Row} {e : Error} (hf : f r = .error e) (rs : List Row) :
    deleteRows f (r :: rs) = (r :: rs, .error e) := by
  rw [deleteRows, hf]

theorem deleteRows_of_ok {rows : List Row} (h : ∀ r ∈ rows, f r = .ok (keep r)) :
    deleteRows f rows = (rows.filter (!keep ·), .ok (rows.countP keep)) := by
  have := deleteRows_append h []
  simpa [deleteRows, Except.map] using this

theorem deleteRows_of_error {pre post : List Row} {r : Row} {e : Error}
    (hpre : ∀ x ∈ pre, f x = .ok (keep x)) (hr : f r = .error e) :
    deleteRows f (pre ++ r :: post) = (pre.filter (!keep ·) ++ r :: post, .error e) := by
  rw [deleteRows_append hpre, deleteRows_cons_of_error hr]
  rfl

/-! ## Updating -/

theorem updateRows_cons_of_update_error {r : Row} {e : Error} (hf : f r = .ok true)
    (hu : u r = .error e) (rs : List Row) : updateRows f u (r :: rs) = (r :: rs, .error e) := by
  rw [updateRows, hf]
  simp only [hu]

theorem updateRows_append {pre : List Row} (hf : ∀ r ∈ pre, f r = .ok (keep r))
    (hu : ∀ r ∈ pre, keep r = true → u r = .ok (g r)) (rest : List Row) :
    updateRows f u (pre ++ rest) =
      (pre.map (fun r => if keep r then g r else r) ++ (updateRows f u rest).1,
        (updateRows f u rest).2.map (· + pre.countP keep)) := by
  induction pre with
  | nil => rcases hrest : updateRows f u rest with ⟨rows, _ | n⟩ <;> simp [hrest, Except.map]
  | cons r pre ih =>
    have ih := ih (fun a ha => hf a (List.mem_cons_of_mem r ha))
      (fun a ha => hu a (List.mem_cons_of_mem r ha))
    rw [List.cons_append, updateRows, hf r List.mem_cons_self]
    cases hk : keep r with
    | false => simp [ih, hk]
    | true =>
      simp [hu r List.mem_cons_self hk, ih, hk, except_map_map, Function.comp_def, Nat.add_assoc]

theorem updateRows_of_error {pre post : List Row} {r : Row} {e : Error}
    (hf : ∀ x ∈ pre, f x = .ok (keep x)) (hu : ∀ x ∈ pre, keep x = true → u x = .ok (g x))
    (hr : f r = .error e ∨ f r = .ok true ∧ u r = .error e) :
    updateRows f u (pre ++ r :: post) =
      (pre.map (fun x => if keep x then g x else x) ++ r :: post, .error e) := by
  have hstop : updateRows f u (r :: post) = (r :: post, .error e) := by
    rcases hr with hr | ⟨hr, hur⟩
    · exact updateRows_cons_of_error hr
    · exact updateRows_cons_of_update_error hr hur post
  rw [updateRows_append hf hu, hstop]
  rfl

theorem forall₂_updateRows {P : Row → Row → Prop} (hrefl : ∀ r, P r r)
    (hu : ∀ r r', u r = .ok r' → P r r') :
    ∀ rows : List Row, List.Forall₂ P rows (updateRows f u rows).1
  | [] => .nil
  | r :: rs => by
    have hrs := forall₂_updateRows hrefl hu rs
    rw [updateRows]
    split
    · exact .cons (hrefl r) (List.forall₂_same.2 fun x _ => hrefl x)
    · exact .cons (hrefl r) hrs
    · split
      · exact .cons (hrefl r) (List.forall₂_same.2 fun x _ => hrefl x)
      · rename_i r' hr'
        exact .cons (hu r r' hr') hrs

theorem length_updateRows (rows : List Row) : (updateRows f u rows).1.length = rows.length :=
  (forall₂_updateRows (P := fun _ _ => True) (fun _ => trivial) (fun _ _ _ => trivial)
    rows).length_eq.symm

/-! ## Scanning -/

theorem scan_of_error {s : Store} {pre post : List Row} {r : Row} {e : Error}
    (hrows : s.rows = pre ++ r :: post) (hpre : ∀ x ∈ pre, f x = .ok (keep x))
    (hr : f r = .error e) : s.scan f = .error e := by
  rw [scan, hrows]
  exact filterM_append_cons_eq_error (fun x hx => ⟨keep x, hpre x hx⟩) hr post

theorem delete_eq (s : Store) (f : RowFilter) :
    s.delete f = (⟨(deleteRows f s.rows).1⟩, (deleteRows f s.rows).2) := by
  rcases h : deleteRows f s.rows with ⟨rows, result⟩
  simp [delete, h]

theorem update_eq (s : Store) (f : RowFilter) (u : RowUpdate) :
    s.update f u = (⟨(updateRows f u s.rows).1⟩, (updateRows f u s.rows).2) := by
  rcases h : updateRows f u s.rows with ⟨rows, result⟩
  simp [update, h]

theorem length_filter_not_add_countP (rows : List Row) (keep : Row → Bool) :
    (rows.filter (!keep ·)).length + rows.countP keep = rows.length := by
  rw [← List.countP_eq_length_filter, List.length_eq_countP_add_countP keep]
  simp only [Bool.not_eq_true, Bool.decide_eq_false]
  omega

/-- Deletion visits the rows in order and never loses, duplicates or reorders one, whatever
its filter does and wherever the filter fails. When the filter decides every row, the rows it
rejects stay in their order, the accepted ones go, and the count removed is returned, so the
rows left and the rows removed make up the store. When the filter first fails on a row, that
error is returned, the accepted rows before it are gone, and it and every row after it stay. -/
theorem delete_outcome (s : Store) (f : RowFilter) :
    (∀ keep : Row → Bool, (∀ r ∈ s.rows, f r = .ok (keep r)) →
      s.delete f = (⟨s.rows.filter (!keep ·)⟩, .ok (s.rows.countP keep)) ∧
        (s.delete f).1.count + s.rows.countP keep = s.count) ∧
    (∀ (keep : Row → Bool) (pre post : List Row) (r : Row) (e : Error),
      s.rows = pre ++ r :: post → (∀ x ∈ pre, f x = .ok (keep x)) → f r = .error e →
      s.delete f = (⟨pre.filter (!keep ·) ++ r :: post⟩, .error e) ∧
        (s.delete f).1.count + pre.countP keep = s.count) := by
  constructor
  · intro keep hkeep
    have hdel : s.delete f = (⟨s.rows.filter (!keep ·)⟩, .ok (s.rows.countP keep)) := by
      rw [delete_eq, deleteRows_of_ok hkeep]
    refine ⟨hdel, ?_⟩
    rw [hdel]
    exact length_filter_not_add_countP s.rows keep
  · intro keep pre post r e hrows hpre hr
    have hdel : s.delete f = (⟨pre.filter (!keep ·) ++ r :: post⟩, .error e) := by
      rw [delete_eq, hrows, deleteRows_of_error hpre hr]
    refine ⟨hdel, ?_⟩
    have hpart := length_filter_not_add_countP pre keep
    rw [hdel]
    simp only [count, hrows, List.length_append, List.length_cons]
    omega

/-- Five rows numbered 1 to 5 and a filter that accepts every row but fails on row 3: the
deletion removes rows 1 and 2, fails on row 3, and keeps rows 3, 4 and 5 in order. -/
theorem delete_stops_at_failing_row :
    let s : Store := ⟨[⟨[.int 1]⟩, ⟨[.int 2]⟩, ⟨[.int 3]⟩, ⟨[.int 4]⟩, ⟨[.int 5]⟩]⟩
    let f : RowFilter := fun r =>
      if r.get? 0 = some (.int 3) then .error (.nonNumericComparison "id" "x") else .ok true
    s.delete f = (⟨[⟨[.int 3]⟩, ⟨[.int 4]⟩, ⟨[.int 5]⟩]⟩, .error (.nonNumericComparison "id" "x")) ∧
      (s.delete f).1.count + 2 = s.count := by
  intro s f
  have hpre : ∀ x ∈ [(⟨[.int 1]⟩ : Row), ⟨[.int 2]⟩], f x = .ok ((fun _ => true) x) := by
    intro x hx
    rcases List.mem_pair.1 hx with rfl | rfl <;> rfl
  exact (delete_outcome s f).2 (fun _ => true) _ [⟨[.int 4]⟩, ⟨[.int 5]⟩] ⟨[.int 3]⟩ _ rfl hpre rfl

/-- An update visits the rows in order and rewrites in place, whatever its filter and its
change do and wherever one of them fails. When the filter decides every row and the change
succeeds on every accepted row, each accepted row is replaced by its change, the others stay,
and the number replaced is returned. When the first failure is at a row, the filter failing on
it or the change failing on it after the filter accepted it, that error is returned, the rows
before it are as on success, and it and every row after it are as they were. The number of rows
never changes, and a change that places values by position keeps every row's length. A scan
returns the accepted rows in storage order, or the error of the first row the filter fails
on. -/
theorem update_scan_outcome (s : Store) (f : RowFilter) (u : RowUpdate) :
    (∀ (keep : Row → Bool) (g : Row → Row), (∀ r ∈ s.rows, f r = .ok (keep r)) →
      (∀ r ∈ s.rows, keep r = true → u r = .ok (g r)) →
      s.update f u = (⟨s.rows.map fun r => if keep r then g r else r⟩, .ok (s.rows.countP keep))) ∧
    (∀ (keep : Row → Bool) (g : Row → Row) (pre post : List Row) (r : Row) (e : Error),
      s.rows = pre ++ r :: post → (∀ x ∈ pre, f x = .ok (keep x)) →
      (∀ x ∈ pre, keep x = true → u x = .ok (g x)) →
      (f r = .error e ∨ f r = .ok true ∧ u r = .error e) →
      s.update f u = (⟨pre.map (fun x => if keep x then g x else x) ++ r :: post⟩, .error e)) ∧
    (s.update f u).1.count = s.count ∧
    (∀ pairs : List (Nat × Value), List.Forall₂ (fun r r' => r'.values.length = r.values.length)
      s.rows (s.update f fun r => .ok (r.setAll pairs)).1.rows) ∧
    (∀ keep : Row → Bool, (∀ r ∈ s.rows, f r = .ok (keep r)) →
      s.scan f = .ok (s.rows.filter keep)) ∧
    (∀ (keep : Row → Bool) (pre post : List Row) (r : Row) (e : Error),
      s.rows = pre ++ r :: post → (∀ x ∈ pre, f x = .ok (keep x)) → f r = .error e →
      s.scan f = .error e) := by
  refine ⟨?_, ?_, ?_, ?_, ?_, ?_⟩
  · intro keep g hf hu
    rw [update_eq, updateRows_of_ok hf hu]
  · intro keep g pre post r e hrows hf hu hr
    rw [update_eq, hrows, updateRows_of_error hf hu hr]
  · rw [update_eq]
    exact length_updateRows s.rows
  · intro pairs
    rw [update_eq]
    dsimp only
    -- a successful change is a placing of values, which keeps the length
    refine forall₂_updateRows (P := fun r r' => r'.values.length = r.values.length) (fun _ => rfl)
      (fun r r' h => ?_) s.rows
    cases h
    exact Row.length_setAll r pairs
  · intro keep hf
    exact filterM_eq_ok hf
  · intro keep pre post r e hrows hpre hr
    exact scan_of_error hrows hpre hr

/-- Five rows numbered 1 to 5, a filter that accepts every row but fails on row 3, and a change
that writes `x` at position 1: rows 1 and 2 are rewritten, the update fails on row 3, and rows 3,
4 and 5 keep their values. -/
theorem update_stops_at_failing_row :
    let s : Store := ⟨[⟨[.int 1, .text "row1"]⟩, ⟨[.int 2, .text "row2"]⟩, ⟨[.int 3, .text "row3"]⟩,
      ⟨[.int 4, .text "row4"]⟩, ⟨[.int 5, .text "row5"]⟩]⟩
    let f : RowFilter := fun r =>
      if r.get? 0 = some (.int 3) then .error (.nonNumericComparison "id" "x") else .ok true
    let u : RowUpdate := fun r => .ok (r.setAll [(1, .text "x")])
    s.update f u = (⟨[⟨[.int 1, .text "x"]⟩, ⟨[.int 2, .text "x"]⟩, ⟨[.int 3, .text "row3"]⟩,
      ⟨[.int 4, .text "row4"]⟩, ⟨[.int 5, .text "row5"]⟩]⟩, .error (.nonNumericComparison "id" "x")) := by
  intro s f u
  have hpre : ∀ x ∈ [(⟨[.int 1, .text "row1"]⟩ : Row), ⟨[.int 2, .text "row2"]⟩],
      f x = .ok ((fun _ => true) x) := by
    intro x hx
    rcases List.mem_pair.1 hx with rfl | rfl <;> rfl
  exact (update_scan_outcome s f u).2.1 (fun _ => true) (fun r => r.setAll [(1, .text "x")]) _
    [⟨[.int 4, .text "row4"]⟩, ⟨[.int 5, .text "row5"]⟩] ⟨[.int 3, .text "row3"]⟩ _ rfl hpre
    (fun _ _ _ => rfl) (.inl rfl)

end Store

end TinySql
