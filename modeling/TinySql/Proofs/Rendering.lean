import Mathlib.Data.List.Forall2
import Mathlib.Algebra.GroupWithZero.Nat
import TinySql.QueryResult

/-!
The text of a result table. A result without a message is shown as lines of equal length: a
rule, the header, a rule, one line per row, a closing rule when there is a row, then the row
count. Each column is as wide as its widest text, its name or one of its values, counted in
characters; a name is centred in that width, the odd space going to its right, and a value
is aligned right. Values past the last column are not shown.
-/

namespace TinySql

namespace QueryResult

/-! ## Lines and cells -/

/-- A rule: a run of `-` two longer than each width, between `+` signs. -/
def separator (ws : List Nat) : String :=
  "+" ++ "+".intercalate (ws.map fun w => String.ofList (List.replicate (w + 2) '-')) ++ "+"

/-- Cells between bars, each with a space on both sides. -/
def framed (cells : List String) : String :=
  "|" ++ "|".intercalate (cells.map fun c => " " ++ c ++ " ") ++ "|"

/-- `cell` is `s` centred in `w` characters: padded with spaces on both sides, the right side
longer by at most one. -/
def Centred (w : Nat) (s cell : String) : Prop :=
  ∃ a b, cell = String.ofList (List.replicate a ' ') ++ s ++ String.ofList (List.replicate b ' ') ∧
    a + s.length + b = w ∧ a ≤ b ∧ b ≤ a + 1

/-- `cell` is `s` aligned right in `w` characters. -/
def RightAligned (w : Nat) (s cell : String) : Prop :=
  ∃ a, cell = String.ofList (List.replicate a ' ') ++ s ∧ a + s.length = w

/-- `w` is the width column `i` needs: the length in characters of its name or of one of its
values, and no shorter than any of them. -/
def IsColumnWidth (r : QueryResult) (i w : Nat) : Prop :=
  (∀ c, r.columns[i]? = some c → c.length ≤ w) ∧
    (∀ row ∈ r.rows, ∀ v, row.values[i]? = some v → v.display.length ≤ w) ∧
    ((∃ c, r.columns[i]? = some c ∧ w = c.length) ∨
      ∃ row ∈ r.rows, ∃ v, row.values[i]? = some v ∧ w = v.display.length)

/-! ## Lengths -/

theorem length_bar : "|".length = 1 := rfl

theorem length_plus : "+".length = 1 := rfl

theorem length_space : " ".length = 1 := rfl

theorem length_padding (n : Nat) (c : Char) : (String.ofList (List.replicate n c)).length = n := by
  rw [String.length_ofList, List.length_replicate]

theorem not_mem_padding {n : Nat} {c d : Char} (h : c ≠ d) :
    c ∉ (String.ofList (List.replicate n d)).toList := by
  rw [String.toList_ofList, List.mem_replicate]
  exact fun hc => h hc.2

theorem length_intercalate (s : String) :
    ∀ l : List String, (s.intercalate l).length = (l.map String.length).sum + s.length * (l.length - 1)
  | [] => by simp
  | [t] => by simp
  | t :: u :: l => by
    rw [String.intercalate_cons_cons, String.length_append, String.length_append,
      length_intercalate s (u :: l)]
    simp only [List.map_cons, List.sum_cons, List.length_cons, Nat.add_sub_cancel, Nat.mul_succ]
    omega

theorem length_framed (cells : List String) :
    (framed cells).length = 2 + (cells.map fun c => c.length + 2).sum + (cells.length - 1) := by
  simp only [framed, String.length_append, length_intercalate, List.map_map, List.length_map]
  have hcell : ((fun c : String => c.length) ∘ fun c => " " ++ c ++ " ") = fun c => c.length + 2 := by
    funext c
    simp only [Function.comp, String.length_append, length_space]
    omega
  rw [hcell, length_bar, Nat.one_mul]
  omega

theorem length_separator (ws : List Nat) :
    (separator ws).length = 2 + (ws.map (· + 2)).sum + (ws.length - 1) := by
  simp only [separator, String.length_append, length_intercalate, List.map_map, List.length_map]
  have hrule : ((fun c : String => c.length) ∘ fun w => String.ofList (List.replicate (w + 2) '-')) =
      (· + 2) := by
    funext w
    exact length_padding (w + 2) '-'
  rw [hrule, length_plus, Nat.one_mul]
  omega

/-! ## Column widths -/

/-- A width grown to fit a row's value at position `i`, if the row has one. -/
def widenAt (i w : Nat) (row : Row) : Nat :=
  match row.values[i]? with
  | some v => max w v.display.length
  | none => w

theorem length_widen (ws : List Nat) (row : Row) : (widen ws row).length = ws.length := by
  simp [widen]

theorem getElem?_widen (ws : List Nat) (row : Row) (i : Nat) :
    (widen ws row)[i]? = ws[i]?.map fun w => widenAt i w row := by
  simp only [widen, List.getElem?_mapIdx]
  rfl

theorem getElem?_foldl_widen (i : Nat) :
    ∀ (rows : List Row) (ws : List Nat),
      (rows.foldl widen ws)[i]? = ws[i]?.map fun w => rows.foldl (widenAt i) w
  | [], ws => by simp
  | row :: rows, ws => by
    rw [List.foldl_cons, getElem?_foldl_widen i rows, getElem?_widen, Option.map_map]
    rfl

theorem length_widths (r : QueryResult) : r.widths.length = r.columns.length := by
  have hlen : ∀ (rows : List Row) (ws : List Nat), (rows.foldl widen ws).length = ws.length := by
    intro rows
    induction rows with
    | nil => simp
    | cons row rows ih => intro ws; rw [List.foldl_cons, ih, length_widen]
  simp [widths, hlen]

theorem widenAt_spec (i w : Nat) (row : Row) :
    w ≤ widenAt i w row ∧ (∀ v, row.values[i]? = some v → v.display.length ≤ widenAt i w row) ∧
      (widenAt i w row = w ∨ ∃ v, row.values[i]? = some v ∧ widenAt i w row = v.display.length) := by
  unfold widenAt
  cases hv : row.values[i]? with
  | none => simp
  | some v =>
    refine ⟨Nat.le_max_left _ _, fun v' hv' => ?_, ?_⟩
    · cases hv'
      exact Nat.le_max_right _ _
    · -- the width is the larger of the two, kept or taken from this row
      by_cases hle : w ≤ v.display.length
      · exact .inr ⟨v, rfl, Nat.max_eq_right hle⟩
      · exact .inl (Nat.max_eq_left (by omega))

theorem foldl_widenAt_spec (i : Nat) :
    ∀ (rows : List Row) (w : Nat),
      w ≤ rows.foldl (widenAt i) w ∧
        (∀ row ∈ rows, ∀ v, row.values[i]? = some v → v.display.length ≤ rows.foldl (widenAt i) w) ∧
        (rows.foldl (widenAt i) w = w ∨
          ∃ row ∈ rows, ∃ v, row.values[i]? = some v ∧ rows.foldl (widenAt i) w = v.display.length)
  | [], w => by simp
  | row :: rows, w => by
    obtain ⟨hge₁, hall₁, hwhich₁⟩ := widenAt_spec i w row
    obtain ⟨hge, hall, hwhich⟩ := foldl_widenAt_spec i rows (widenAt i w row)
    rw [List.foldl_cons]
    refine ⟨Nat.le_trans hge₁ hge, ?_, ?_⟩
    · intro row' hrow' v hv
      rcases List.mem_cons.1 hrow' with rfl | hrow'
      · exact Nat.le_trans (hall₁ v hv) hge
      · exact hall row' hrow' v hv
    · rcases hwhich with heq | ⟨row', hrow', v, hv, heq⟩
      · rcases hwhich₁ with heq₁ | ⟨v, hv, heq₁⟩
        · exact .inl (heq.trans heq₁)
        · exact .inr ⟨row, List.mem_cons_self, v, hv, heq.trans heq₁⟩
      · exact .inr ⟨row', List.mem_cons_of_mem _ hrow', v, hv, heq⟩

theorem widths_isColumnWidth {r : QueryResult} {i w : Nat} (h : r.widths[i]? = some w) :
    IsColumnWidth r i w := by
  rw [widths, getElem?_foldl_widen, List.getElem?_map, Option.map_map] at h
  obtain ⟨c, hc, rfl⟩ := Option.map_eq_some_iff.1 h
  obtain ⟨hge, hall, hwhich⟩ := foldl_widenAt_spec i r.rows c.length
  refine ⟨fun c' hc' => ?_, hall, ?_⟩
  · rw [hc] at hc'
    cases hc'
    exact hge
  · rcases hwhich with heq | hrow
    · exact .inl ⟨c, hc, heq⟩
    · exact .inr hrow

/-! ## Cells -/

theorem center_centred {s : String} {w : Nat} (h : s.length ≤ w) : Centred w s (center s w) :=
  ⟨(w - s.length) / 2, (w - s.length) - (w - s.length) / 2, rfl, by omega, by omega, by omega⟩

theorem alignRight_rightAligned {s : String} {w : Nat} (h : s.length ≤ w) :
    RightAligned w s (alignRight s w) :=
  ⟨w - s.length, rfl, by omega⟩

theorem Centred.length_eq {w : Nat} {s cell : String} (h : Centred w s cell) : cell.length = w := by
  obtain ⟨a, b, rfl, hw, -, -⟩ := h
  rw [String.length_append, String.length_append, length_padding, length_padding, ← hw]

theorem RightAligned.length_eq {w : Nat} {s cell : String} (h : RightAligned w s cell) :
    cell.length = w := by
  obtain ⟨a, rfl, hw⟩ := h
  rw [String.length_append, length_padding, ← hw]

theorem Centred.no_newline {w : Nat} {s cell : String} (h : Centred w s cell)
    (hs : '\n' ∉ s.toList) : '\n' ∉ cell.toList := by
  obtain ⟨a, b, rfl, -⟩ := h
  simp only [String.toList_append, List.mem_append, not_or]
  exact ⟨⟨not_mem_padding (by decide), hs⟩, not_mem_padding (by decide)⟩

theorem RightAligned.no_newline {w : Nat} {s cell : String} (h : RightAligned w s cell)
    (hs : '\n' ∉ s.toList) : '\n' ∉ cell.toList := by
  obtain ⟨a, rfl, -⟩ := h
  simp only [String.toList_append, List.mem_append, not_or]
  exact ⟨not_mem_padding (by decide), hs⟩

theorem length_framed_of_forall₂ {α : Type} {l : List (α × Nat)} {cells : List String}
    (h : List.Forall₂ (fun p cell => cell.length = p.2) l cells) :
    (framed cells).length = 2 + ((l.map Prod.snd).map (· + 2)).sum + (l.length - 1) := by
  have hlen : cells.map String.length = l.map Prod.snd := by
    induction h with
    | nil => rfl
    | cons hd _ ih => rw [List.map_cons, List.map_cons, hd, ih]
  have hsum : (cells.map fun c => c.length + 2) = (l.map Prod.snd).map (· + 2) := by
    rw [← hlen, List.map_map]
    rfl
  rw [length_framed, hsum, h.length_eq]

theorem intercalate_no_newline {sep : String} (hsep : '\n' ∉ sep.toList) :
    ∀ {l : List String}, (∀ c ∈ l, '\n' ∉ c.toList) → '\n' ∉ (sep.intercalate l).toList
  | [], _ => by simp
  | [t], h => by simpa using h t (by simp)
  | t :: u :: l, h => by
    rw [String.intercalate_cons_cons]
    simp only [String.toList_append, List.mem_append, not_or]
    exact ⟨⟨h t (by simp), hsep⟩,
      intercalate_no_newline hsep fun c hc => h c (List.mem_cons_of_mem _ hc)⟩

theorem framed_no_newline {cells : List String} (h : ∀ c ∈ cells, '\n' ∉ c.toList) :
    '\n' ∉ (framed cells).toList := by
  have hbar : '\n' ∉ "|".toList := by decide
  have hcells : ∀ c ∈ cells.map (fun c => " " ++ c ++ " "), '\n' ∉ c.toList := by
    simp only [List.mem_map, forall_exists_index, and_imp]
    rintro _ c hc rfl
    have hspace : '\n' ∉ " ".toList := by decide
    simp only [String.toList_append, List.mem_append, not_or]
    exact ⟨⟨hspace, h c hc⟩, hspace⟩
  simp only [framed, String.toList_append, List.mem_append, not_or]
  exact ⟨⟨hbar, intercalate_no_newline hbar hcells⟩, hbar⟩

theorem separator_no_newline (ws : List Nat) : '\n' ∉ (separator ws).toList := by
  have hplus : '\n' ∉ "+".toList := by decide
  have hrules : ∀ c ∈ ws.map (fun w => String.ofList (List.replicate (w + 2) '-')),
      '\n' ∉ c.toList := by
    simp only [List.mem_map, forall_exists_index, and_imp]
    rintro _ w - rfl
    exact not_mem_padding (by decide)
  simp only [separator, String.toList_append, List.mem_append, not_or]
  exact ⟨⟨hplus, intercalate_no_newline hplus hrules⟩, hplus⟩

/-! ## The whole text -/

theorem line_eq (cells : List String) : line cells = framed cells ++ "\n" := by
  have hend : "|\n" = "|" ++ "\n" := rfl
  simp only [line, framed, hend, String.append_assoc]

/-- The cells of the header: each name centred in its column's width. -/
def headerCells (r : QueryResult) : List String :=
  (r.columns.zip r.widths).map fun p => center p.1 p.2

/-- The cells of a row: each value aligned right in its column's width. -/
def rowCells (ws : List Nat) (row : Row) : List String :=
  (row.values.zip ws).map fun p => alignRight p.1.display p.2

theorem render_eq {r : QueryResult} (h : r.message = none) :
    r.render = String.join ((separator r.widths :: framed r.headerCells :: separator r.widths ::
      r.rows.map (fun row => framed (rowCells r.widths row)) ++
      (if r.rows = [] then [] else [separator r.widths]) ++
      [Nat.repr r.rows.length ++ " row(s) returned"]).map (· ++ "\n")) := by
  unfold render
  rw [h]
  dsimp only
  have hrule : "+" ++ "+".intercalate (r.widths.map fun w => repeatChar '-' (w + 2)) ++ "+\n" =
      separator r.widths ++ "\n" := by
    simp only [separator, repeatChar, String.append_assoc]
    rfl
  have hcount : " row(s) returned\n" = " row(s) returned" ++ "\n" := rfl
  rw [hrule, hcount]
  simp only [line_eq]
  by_cases hrows : r.rows = []
  · simp only [hrows, List.isEmpty_nil, if_true, List.map_nil, List.cons_append, List.nil_append,
      List.map_cons, String.join_cons, String.join_nil, String.append_assoc,
      String.append_empty]
    rfl
  · simp only [hrows, List.isEmpty_iff, if_false, List.cons_append, List.map_cons, List.map_append,
      List.map_nil, List.map_map, Function.comp_def, String.join_cons, String.join_append,
      String.join_nil, String.append_assoc, String.append_empty]
    rfl

/-! ## The cells fit their columns -/

theorem zip_take_length {α β : Type} :
    ∀ (l : List α) (l' : List β), (l.take l'.length).zip l' = l.zip l'
  | [], _ => by simp
  | _ :: _, [] => by simp
  | a :: l, b :: l' => by simp [zip_take_length l l']

theorem length_le_of_mem_zip_columns {r : QueryResult} {c : String} {w : Nat}
    (h : (c, w) ∈ r.columns.zip r.widths) : c.length ≤ w := by
  obtain ⟨i, hi⟩ := List.mem_iff_getElem?.1 h
  obtain ⟨hc, hw⟩ := List.getElem?_zip_eq_some.1 hi
  exact (widths_isColumnWidth hw).1 c hc

theorem length_le_of_mem_zip_values {r : QueryResult} {row : Row} (hrow : row ∈ r.rows) {v : Value}
    {w : Nat} (h : (v, w) ∈ row.values.zip r.widths) : v.display.length ≤ w := by
  obtain ⟨i, hi⟩ := List.mem_iff_getElem?.1 h
  obtain ⟨hv, hw⟩ := List.getElem?_zip_eq_some.1 hi
  exact (widths_isColumnWidth hw).2.1 row hrow v hv

theorem headerCells_centred (r : QueryResult) :
    List.Forall₂ (fun cw cell => Centred cw.2 cw.1 cell) (r.columns.zip r.widths) r.headerCells := by
  rw [headerCells, List.forall₂_map_right_iff, List.forall₂_same]
  intro p hp
  exact center_centred (length_le_of_mem_zip_columns hp)

theorem rowCells_rightAligned {r : QueryResult} {row : Row} (hrow : row ∈ r.rows) :
    List.Forall₂ (fun vw cell => RightAligned vw.2 vw.1.display cell)
      ((row.values.take r.columns.length).zip r.widths) (rowCells r.widths row) := by
  rw [← length_widths, zip_take_length, rowCells, List.forall₂_map_right_iff, List.forall₂_same]
  intro p hp
  exact alignRight_rightAligned (length_le_of_mem_zip_values hrow hp)

theorem length_framed_of_cells {α : Type} {l : List α} {ws : List Nat} {cells : List String}
    (hlen : ws.length ≤ l.length) (h : List.Forall₂ (fun p cell => cell.length = p.2) (l.zip ws) cells) :
    (framed cells).length = 2 + (ws.map (· + 2)).sum + (ws.length - 1) := by
  rw [length_framed_of_forall₂ h, List.map_snd_zip hlen, List.length_zip, Nat.min_eq_right hlen]

theorem count_no_newline (n : Nat) : '\n' ∉ (Nat.repr n ++ " row(s) returned").toList := by
  have htext : '\n' ∉ " row(s) returned".toList := by decide
  simp only [String.toList_append, List.mem_append, Nat.toList_repr, not_or]
  exact ⟨fun hc => absurd (Nat.isDigit_of_mem_toDigits (by decide) (by decide) hc) (by decide), htext⟩

/-- A result with no message and rows that have a value for every column is shown as lines of
one length, none holding a newline when no name or value does: a rule, the header, a rule, a line
per row, a rule after the rows if there are any, and the row count. Each column is as wide as the
longest of its name and its values; the header centres each name in its column, the odd space to
the right, and each row line aligns the row's first values right in their columns, one per
column. -/
theorem render_table_layout (r : QueryResult) (hmsg : r.message = none)
    (hfull : ∀ row ∈ r.rows, r.columns.length ≤ row.values.length)
    (hnames : ∀ c ∈ r.columns, '\n' ∉ c.toList)
    (hvalues : ∀ row ∈ r.rows, ∀ v ∈ row.values, '\n' ∉ v.display.toList) :
    r.widths.length = r.columns.length ∧ (∀ i w, r.widths[i]? = some w → IsColumnWidth r i w) ∧
    ∃ (header : List String) (body : List (List String)),
      r.render = String.join ((separator r.widths :: framed header :: separator r.widths ::
        body.map framed ++ (if r.rows = [] then [] else [separator r.widths]) ++
        [Nat.repr r.rows.length ++ " row(s) returned"]).map (· ++ "\n")) ∧
      List.Forall₂ (fun cw cell => Centred cw.2 cw.1 cell) (r.columns.zip r.widths) header ∧
      List.Forall₂ (fun row cells => List.Forall₂ (fun vw cell => RightAligned vw.2 vw.1.display cell)
        ((row.values.take r.columns.length).zip r.widths) cells) r.rows body ∧
      (∀ l ∈ separator r.widths :: framed header :: body.map framed,
        l.length = 2 + (r.widths.map (· + 2)).sum + (r.columns.length - 1) ∧ '\n' ∉ l.toList) ∧
      '\n' ∉ (Nat.repr r.rows.length ++ " row(s) returned").toList := by
  have hws := length_widths r
  have hbody : List.Forall₂ (fun row cells => List.Forall₂
      (fun vw cell => RightAligned vw.2 vw.1.display cell)
      ((row.values.take r.columns.length).zip r.widths) cells) r.rows (r.rows.map (rowCells r.widths)) := by
    rw [List.forall₂_map_right_iff, List.forall₂_same]
    exact fun row hrow => rowCells_rightAligned hrow
  refine ⟨hws, fun i w h => widths_isColumnWidth h, r.headerCells, r.rows.map (rowCells r.widths),
    ?_, headerCells_centred r, hbody, fun l hl => ?_, count_no_newline _⟩
  · rw [render_eq hmsg, List.map_map]
    rfl
  rcases List.mem_cons.1 hl with rfl | hl
  · -- the rule
    exact ⟨by rw [length_separator, hws], separator_no_newline _⟩
  rcases List.mem_cons.1 hl with rfl | hl
  · -- the header: each name centred in its width
    refine ⟨?_, framed_no_newline fun cell hcell => ?_⟩
    · rw [length_framed_of_cells (by omega) ((headerCells_centred r).imp fun _ _ h => h.length_eq), hws]
    · obtain ⟨p, hp, rfl⟩ := List.mem_map.1 hcell
      exact (center_centred (length_le_of_mem_zip_columns hp)).no_newline
        (hnames p.1 (List.of_mem_zip hp).1)
  · -- a row: its first values, each aligned right in its width
    obtain ⟨cells, hcells, rfl⟩ := List.mem_map.1 hl
    obtain ⟨row, hrow, rfl⟩ := List.mem_map.1 hcells
    refine ⟨?_, framed_no_newline fun cell hcell => ?_⟩
    · have htake : r.widths.length ≤ (row.values.take r.columns.length).length := by
        rw [List.length_take, hws]
        exact Nat.le_min.2 ⟨Nat.le_refl _, hfull row hrow⟩
      rw [length_framed_of_cells htake ((rowCells_rightAligned hrow).imp fun _ _ h => h.length_eq),
        hws]
    · obtain ⟨p, hp, rfl⟩ := List.mem_map.1 hcell
      exact (alignRight_rightAligned (length_le_of_mem_zip_values hrow hp)).no_newline
        (hvalues row hrow p.1 (List.of_mem_zip hp).1)

/-- Two rows under two columns, the second with a value past the last column: the second
column is as wide as its name and first value, `hello`, and not as the value it ignores. -/
theorem render_ignores_values_past_columns :
    let r := ofRows ["a", "name"] [⟨[.int 5, .text "hello"]⟩, ⟨[.int 10, .text "x", .text "ignored"]⟩]
    r.message = none ∧ (∀ row ∈ r.rows, r.columns.length ≤ row.values.length) ∧
      (∀ c ∈ r.columns, '\n' ∉ c.toList) ∧
      (∀ row ∈ r.rows, ∀ v ∈ row.values, '\n' ∉ v.display.toList) ∧
      r.widths.length = 2 ∧ IsColumnWidth r 1 5 := by
  intro r
  have hmsg : r.message = none := rfl
  have hfull : ∀ row ∈ r.rows, r.columns.length ≤ row.values.length := by decide
  have hnames : ∀ c ∈ r.columns, '\n' ∉ c.toList := by decide
  have hvalues : ∀ row ∈ r.rows, ∀ v ∈ row.values, '\n' ∉ v.display.toList := by decide
  have h := render_table_layout r hmsg hfull hnames hvalues
  exact ⟨hmsg, hfull, hnames, hvalues, h.1, h.2.1 1 5 (by decide)⟩

end QueryResult

end TinySql
