import TinySql.Proofs.JsonReading
import TinySql.Snapshot.File

/-!
Snapshots read back what they write. The written text is cut where the reader's loops turn:
the members of an object and the elements of a list each stand on a `line` of their own, and
`members` and `elements` take one line per step. Records written as objects, lists of records,
column types and counts are read back by the readers of `Snapshot.Reader`, and so is a whole
snapshot (`ofJson_toJson`); a snapshot saved to a file is loaded back the same.
-/

namespace TinySql.Snapshot

open Json

/-! ### The written text -/

theorem indent_toList (d : Nat) : (indent d).toList = List.replicate (2 * d) ' ' := by
  simp [indent]

theorem allBlank_indent (d : Nat) : AllBlank ('\n' :: (indent d).toList) := by
  intro b hb
  simp only [indent_toList, List.mem_cons, List.mem_replicate] at hb
  rcases hb with rfl | ⟨-, rfl⟩ <;> rfl

/-- One line of a block: a comma unless it is the first, a line break, the indentation `ind`
and the item. -/
def line (ind : List Char) (first : Bool) (x : List Char) : List Char :=
  (if first then [] else [',']) ++ '\n' :: ind ++ x

/-- The lines of a block after its opening bracket, one for each item. -/
def lines (ind : List Char) (first : Bool) : List (List Char) → List Char
  | [] => []
  | x :: xs => line ind first x ++ lines ind false xs

theorem intercalate_lines (ind y : List Char) (ys : List (List Char)) :
    [',', '\n'].intercalate ((y :: ys).map (ind ++ ·)) = ind ++ y ++ lines ind false ys := by
  induction ys generalizing y with
  | nil => simp [lines]
  | cons z zs ih =>
    have h := ih z
    simp only [List.map_cons] at h
    simp [lines, line, h]

theorem block_toList {openMark closeMark : String} {depth : Nat} {items : List String}
    (hne : items ≠ []) :
    (block openMark closeMark depth items).toList =
      openMark.toList ++ lines (indent (depth + 1)).toList true (items.map String.toList) ++
        '\n' :: (indent depth).toList ++ closeMark.toList := by
  obtain ⟨y, ys, rfl⟩ := List.exists_cons_of_ne_nil hne
  have hsep : ",\n".toList = [',', '\n'] := rfl
  have hi := intercalate_lines (indent (depth + 1)).toList y.toList (ys.map String.toList)
  simp only [List.map_cons, List.map_map, Function.comp_def] at hi
  simp only [block, List.isEmpty_cons, Bool.false_eq_true, if_false, String.toList_append,
    String.toList_intercalate, hsep, List.map_map, Function.comp_def, List.map_cons, hi]
  simp [lines, line]

theorem block_nil_toList (openMark closeMark : String) (depth : Nat) :
    (block openMark closeMark depth []).toList = openMark.toList ++ closeMark.toList := by
  simp [block]

/-- A member is written as its name, a colon, a space and its value. -/
def memberText (k v : String) : List Char := (stringLiteral k).toList ++ ':' :: ' ' :: v.toList

theorem object_toList (d : Nat) {ms : List (String × String)} (hne : ms ≠ []) :
    (object d ms).toList =
      '{' :: (lines (indent (d + 1)).toList true (ms.map fun m => memberText m.1 m.2) ++
        '\n' :: (indent d).toList) ++ ['}'] := by
  rw [object, block_toList (by simpa using hne)]
  simp [memberText, Function.comp_def]

theorem length_le_lines (ind : List Char) (first : Bool) (xs : List (List Char)) :
    xs.length ≤ (lines ind first xs).length := by
  induction xs generalizing first with
  | nil => simp [lines]
  | cons x xs ih =>
    have := ih false
    simp only [lines, line, List.length_cons, List.length_append]
    omega

/-! ### Objects -/

section Members

variable {σ α : Type} {shape : RecordShape σ α}

theorem nextKey_reads (first : Bool) {bl : List Char} (hbl : AllBlank bl) (key : String)
    {F : List Char → Prop} :
    Reads (nextKey first) ((if first then [] else [',']) ++ bl ++ (stringLiteral key).toList)
      (some key) F := by
  intro rest off _
  have hs := string_reads key (F := fun _ => True) rest
  simp only [List.append_assoc, List.singleton_append] at hs
  rw [stringLiteral_toList]
  cases first with
  | true =>
    simp only [if_true, List.nil_append, List.cons_append, List.append_assoc]
    rw [nextKey, skipBlank_bind hbl (c := '"') rfl]
    -- the peeked quote selects the branch; the branches are told apart by deciding on literals
    simp +decide only [peek_bind_cons]
    rw [if_pos trivial, pure_bind_apply]
    simp +decide only [bump_bind_cons]
    rw [map_of_ok some (hs _ trivial)]
    simp [Nat.add_assoc]
  | false =>
    simp only [Bool.false_eq_true, if_false, List.cons_append, List.append_assoc,
      List.nil_append]
    rw [nextKey, skipBlank_bind_cons (c := ',') rfl]
    simp +decide only [peek_bind_cons]
    rw [if_neg not_false, bump_bind_cons, skipBlank_bind hbl (c := '"') rfl, peek_bind_cons]
    simp +decide only [bump_bind_cons]
    rw [map_of_ok some (hs _ trivial)]
    simp [Nat.add_assoc]

theorem members_step {first : Bool} {sofar sofar' : σ} {i : Nat} {key : String}
    {ind w : List Char} {F : List Char → Prop} (hind : AllBlank ('\n' :: ind))
    (hkey : shape.members.idxOf? key = some i) (hset : shape.isSet sofar i = false)
    (hread : Reads (shape.readMember i sofar) w sofar' F) (rest : List Char) (hrest : F rest)
    (fuel off : Nat) :
    members shape first sofar (fuel + 1)
        ⟨line ind first ((stringLiteral key).toList ++ ':' :: w) ++ rest, off⟩ =
      members shape false sofar' fuel
        ⟨rest, off + byteLength (line ind first ((stringLiteral key).toList ++ ':' :: w))⟩ := by
  have hk := nextKey_reads (F := fun _ => True) first hind key (':' :: w ++ rest) off trivial
  have hstate : line ind first ((stringLiteral key).toList ++ ':' :: w) ++ rest =
      ((if first then [] else [',']) ++ '\n' :: ind ++ (stringLiteral key).toList) ++
        (':' :: w ++ rest) := by
    simp [line]
  rw [members, hstate, bind_of_ok hk]
  simp only [hkey, hset]
  rw [if_neg Bool.false_ne_true]
  refine (bind_of_ok (colon_reads (F := fun _ => True) (w ++ rest) _ trivial)).trans ?_
  refine (bind_of_ok (hread rest _ hrest)).trans ?_
  simp [line, Nat.add_assoc]

theorem members_end {first : Bool} {sofar : σ} {a : α} {bl : List Char} (hbl : AllBlank bl)
    (hc : shape.complete sofar = .ok a) (rest : List Char) (fuel off : Nat) :
    members shape first sofar (fuel + 1) ⟨bl ++ '}' :: rest, off⟩ =
      .ok a ⟨'}' :: rest, off + byteLength bl⟩ := by
  have hk : nextKey first ⟨bl ++ '}' :: rest, off⟩ =
      .ok none ⟨'}' :: rest, off + byteLength bl⟩ := by
    rw [nextKey, skipBlank_bind hbl (c := '}') rfl]
    simp +decide only [peek_bind_cons]
    rfl
  rw [members, bind_of_ok hk]
  simp only [hc]
  rfl

theorem closing_ok (a : α) (s : Cursor) : closing (.ok a) (.ok ()) s = .ok a s := rfl

theorem record_object {bl body : List Char} {a : α} (hbl : AllBlank bl)
    (hbody : ∀ rest off fuel, body.length + rest.length < fuel →
      members shape true shape.init fuel ⟨body ++ '}' :: rest, off⟩ =
        .ok a ⟨'}' :: rest, off + byteLength body⟩)
    {F : List Char → Prop} :
    Reads (record shape) (bl ++ ('{' :: body ++ ['}'])) a F := by
  intro rest off _
  have hstate : bl ++ ('{' :: body ++ ['}']) ++ rest = bl ++ '{' :: (body ++ '}' :: rest) := by
    simp
  apply placing_of_ok
  rw [hstate, skipBlank_bind hbl (c := '{') rfl, peek_bind_cons]
  simp +decide only [bump_bind_cons, get_bind]
  have hfuel : body.length + rest.length < (body ++ '}' :: rest).length + 1 := by
    simp only [List.length_append, List.length_cons]
    omega
  rw [bind_of_ok (attempt_of_ok (hbody rest _ _ hfuel))]
  refine (bind_of_ok (attempt_of_ok (objectEnd_reads (F := fun _ => True) rest _ trivial))).trans ?_
  rw [closing_ok]
  exact congrArg (EStateM.Result.ok a) (congrArg (Cursor.mk rest) (by simp [Nat.add_assoc]))

theorem record_reads_pair {bl : List Char} (hbl : AllBlank bl) (d : Nat) {k₀ k₁ v₀ v₁ : String}
    {s₁ s₂ : σ} {a : α} (h₀ : shape.members.idxOf? k₀ = some 0)
    (hset₀ : shape.isSet shape.init 0 = false)
    (hread₀ : Reads (shape.readMember 0 shape.init) (' ' :: v₀.toList) s₁
      fun r => r.head? = some ',')
    (h₁ : shape.members.idxOf? k₁ = some 1) (hset₁ : shape.isSet s₁ 1 = false)
    (hread₁ : Reads (shape.readMember 1 s₁) (' ' :: v₁.toList) s₂ fun r => r.head? = some '\n')
    (hc : shape.complete s₂ = .ok a) {F : List Char → Prop} :
    Reads (record shape) (bl ++ (object d [(k₀, v₀), (k₁, v₁)]).toList) a F := by
  rw [object_toList d (by simp)]
  apply record_object hbl
  intro rest off fuel hfuel
  have hlen := length_le_lines (indent (d + 1)).toList true [memberText k₀ v₀, memberText k₁ v₁]
  simp only [List.map_cons, List.map_nil, List.length_append, List.length_cons] at hfuel hlen ⊢
  -- a step of fuel for each member and one for the closing brace
  obtain ⟨fuel, rfl⟩ : ∃ f, fuel = f + 3 := ⟨fuel - 3, by omega⟩
  simp only [lines, List.append_nil, List.append_assoc]
  rw [memberText, members_step (allBlank_indent _) h₀ hset₀ hread₀ _ (by simp [line]),
    memberText, members_step (allBlank_indent _) h₁ hset₁ hread₁ _ rfl,
    members_end (allBlank_indent d) hc]
  simp [Nat.add_assoc]

theorem record_reads_single {bl : List Char} (hbl : AllBlank bl) (d : Nat) {k v : String}
    {s₁ : σ} {a : α} (h₀ : shape.members.idxOf? k = some 0)
    (hset₀ : shape.isSet shape.init 0 = false)
    (hread₀ : Reads (shape.readMember 0 shape.init) (' ' :: v.toList) s₁
      fun r => r.head? = some '\n')
    (hc : shape.complete s₁ = .ok a) {F : List Char → Prop} :
    Reads (record shape) (bl ++ (object d [(k, v)]).toList) a F := by
  rw [object_toList d (by simp)]
  apply record_object hbl
  intro rest off fuel hfuel
  have hlen := length_le_lines (indent (d + 1)).toList true [memberText k v]
  simp only [List.map_cons, List.map_nil, List.length_append, List.length_cons] at hfuel hlen ⊢
  obtain ⟨fuel, rfl⟩ : ∃ f, fuel = f + 2 := ⟨fuel - 2, by omega⟩
  simp only [lines, List.append_nil, List.append_assoc]
  rw [memberText, members_step (allBlank_indent _) h₀ hset₀ hread₀ _ rfl,
    members_end (allBlank_indent d) hc]
  simp [Nat.add_assoc]

end Members

/-! ### Lists -/

section Elements

variable {α : Type} {element : Reader α}

theorem nextElement_line (first : Bool) {ind : List Char} (hind : AllBlank ('\n' :: ind))
    (element : Reader α) (t rest : List Char) (off : Nat) :
    nextElement first element ⟨line ind first ('{' :: t) ++ rest, off⟩ =
      (some <$> element)
        ⟨'{' :: (t ++ rest), off + byteLength ((if first then [] else [',']) ++ '\n' :: ind)⟩ := by
  cases first with
  | true =>
    have hstate : line ind true ('{' :: t) ++ rest = ('\n' :: ind) ++ '{' :: (t ++ rest) := by
      simp [line]
    rw [hstate, nextElement, skipBlank_bind hind (c := '{') rfl, peek_bind_cons]
    simp +decide only []
    rw [if_pos trivial, pure_bind_apply]
    simp +decide only []
    simp
  | false =>
    have hstate : line ind false ('{' :: t) ++ rest = ',' :: (('\n' :: ind) ++ '{' :: (t ++ rest)) := by
      simp [line]
    rw [hstate, nextElement, skipBlank_bind_cons (c := ',') rfl, peek_bind_cons]
    simp +decide only []
    rw [if_neg not_false, bump_bind_cons, skipBlank_bind hind (c := '{') rfl, peek_bind_cons]
    simp +decide only []
    simp [Nat.add_assoc]

theorem elements_step {first : Bool} {acc : List α} {ind t : List Char} {x : α}
    {F : List Char → Prop} (hind : AllBlank ('\n' :: ind)) (hread : Reads element ('{' :: t) x F)
    (rest : List Char) (hrest : F rest) (fuel off : Nat) :
    elements element first acc (fuel + 1) ⟨line ind first ('{' :: t) ++ rest, off⟩ =
      elements element false (x :: acc) fuel
        ⟨rest, off + byteLength (line ind first ('{' :: t))⟩ := by
  rw [elements, bind_of_ok ((nextElement_line first hind element t rest off).trans
    (map_of_ok some (hread rest _ hrest)))]
  simp [line, Nat.add_assoc]

theorem elements_end {first : Bool} {acc : List α} {bl : List Char} (hbl : AllBlank bl)
    (rest : List Char) (fuel off : Nat) :
    elements element first acc (fuel + 1) ⟨bl ++ ']' :: rest, off⟩ =
      .ok acc.reverse ⟨']' :: rest, off + byteLength bl⟩ := by
  have hn : nextElement first element ⟨bl ++ ']' :: rest, off⟩ =
      .ok none ⟨']' :: rest, off + byteLength bl⟩ := by
    rw [nextElement, skipBlank_bind hbl (c := ']') rfl]
    simp +decide only [peek_bind_cons]
    rfl
  rw [elements, bind_of_ok hn]
  rfl

theorem elements_lines {ind bl : List Char} (hind : AllBlank ('\n' :: ind)) (hbl : AllBlank bl)
    {text : α → List Char} {xs : List α}
    (hread : ∀ x ∈ xs, ∃ t, text x = '{' :: t ∧ Reads element (text x) x fun _ => True)
    (first : Bool) (acc : List α) (fuel : Nat) (hfuel : xs.length < fuel) (rest : List Char)
    (off : Nat) :
    elements element first acc fuel ⟨lines ind first (xs.map text) ++ bl ++ ']' :: rest, off⟩ =
      .ok (acc.reverse ++ xs) ⟨']' :: rest, off + byteLength (lines ind first (xs.map text) ++ bl)⟩ := by
  obtain ⟨fuel, rfl⟩ : ∃ f, fuel = f + 1 := ⟨fuel - 1, by omega⟩
  induction xs generalizing first acc fuel off with
  | nil =>
    simp only [List.map_nil, lines, List.nil_append, List.append_nil]
    exact elements_end hbl rest fuel off
  | cons x xs ih =>
    obtain ⟨t, ht, hx⟩ := hread x List.mem_cons_self
    simp only [List.length_cons] at hfuel
    obtain ⟨fuel, rfl⟩ : ∃ f, fuel = f + 1 := ⟨fuel - 1, by omega⟩
    have hstate : lines ind first ((x :: xs).map text) ++ bl ++ ']' :: rest =
        line ind first ('{' :: t) ++ (lines ind false (xs.map text) ++ bl ++ ']' :: rest) := by
      simp [lines, ht]
    rw [hstate, elements_step hind (ht ▸ hx) _ trivial,
      ih (fun y hy => hread y (List.mem_cons_of_mem x hy)) false (x :: acc) _ fuel (by omega)]
    simp [lines, ht, Nat.add_assoc]

theorem list_reads {bl : List Char} (hbl : AllBlank bl) (d : Nat) {text : α → String}
    {xs : List α}
    (hread : ∀ x ∈ xs, ∃ t, (text x).toList = '{' :: t ∧ Reads element (text x).toList x
      fun _ => True)
    {F : List Char → Prop} :
    Reads (list element) (bl ++ (block "[" "]" d (xs.map text)).toList) xs F := by
  intro rest off _
  apply placing_of_ok
  cases xs with
  | nil =>
    -- an empty list is written `[]`
    have hstate : bl ++ (block "[" "]" d (([] : List α).map text)).toList ++ rest =
        bl ++ '[' :: (([] : List Char) ++ ']' :: rest) := by
      simp [block_nil_toList]
    rw [hstate, skipBlank_bind hbl (c := '[') rfl, peek_bind_cons]
    simp +decide only [bump_bind_cons, get_bind]
    refine (bind_of_ok (attempt_of_ok (elements_end (fun _ h => absurd h List.not_mem_nil)
      rest _ _))).trans ?_
    refine (bind_of_ok (attempt_of_ok (arrayEnd_reads (F := fun _ => True) rest _ trivial))).trans ?_
    simp [block_nil_toList, Nat.add_assoc]
    rfl
  | cons y ys =>
    have hstate : bl ++ (block "[" "]" d ((y :: ys).map text)).toList ++ rest =
        bl ++ '[' :: (lines (indent (d + 1)).toList true ((y :: ys).map fun x => (text x).toList) ++
          ('\n' :: (indent d).toList) ++ ']' :: rest) := by
      simp [block_toList, List.map_map, Function.comp_def]
    have hfuel : (y :: ys).length < (lines (indent (d + 1)).toList true
        ((y :: ys).map fun x => (text x).toList) ++ ('\n' :: (indent d).toList) ++ ']' :: rest).length + 1 := by
      have := length_le_lines (indent (d + 1)).toList true ((y :: ys).map fun x => (text x).toList)
      simp only [List.length_map, List.length_append, List.length_cons] at this ⊢
      omega
    rw [hstate, skipBlank_bind hbl (c := '[') rfl, peek_bind_cons]
    simp +decide only [bump_bind_cons, get_bind]
    refine (bind_of_ok (attempt_of_ok (elements_lines (allBlank_indent (d + 1)) (allBlank_indent d)
      hread true [] _ hfuel rest _))).trans ?_
    refine (bind_of_ok (attempt_of_ok (arrayEnd_reads (F := fun _ => True) rest _ trivial))).trans ?_
    simp [block_toList, List.map_map, Function.comp_def, Nat.add_assoc]
    rfl

end Elements

/-! ### Names, counts and column types -/

theorem isJsonBlank_of_isDigit {c : Char} (h : c.isDigit = true) :
    isJsonBlank c = false ∧ c ≠ '-' := by
  have h' : 48 ≤ c.toNat ∧ c.toNat ≤ 57 := by
    simp only [Char.isDigit, Bool.and_eq_true, decide_eq_true_eq] at h
    exact ⟨h.1, h.2⟩
  constructor
  · simp only [isJsonBlank, Bool.or_eq_false_iff, decide_eq_false_iff_not]
    refine ⟨⟨⟨?_, ?_⟩, ?_⟩, ?_⟩ <;> intro hc <;> rw [hc] at h' <;> simp at h'
  · intro hc
    rw [hc] at h'
    simp at h'

theorem text_reads {β : Type} {bl : List Char} (hbl : AllBlank bl) (expected : String)
    {accept : String → Except ReadProblem β} {s : String} {b : β} (h : accept s = .ok b)
    {F : List Char → Prop} :
    Reads (text expected accept) (bl ++ (stringLiteral s).toList) b F := by
  intro rest off _
  have hs := string_reads s (F := fun _ => True) rest
  simp only [List.append_assoc, List.singleton_append] at hs
  have hstate : bl ++ (stringLiteral s).toList ++ rest =
      bl ++ '"' :: (escaped s.toList ++ '"' :: rest) := by
    simp [stringLiteral_toList]
  apply placing_of_ok
  rw [hstate, skipBlank_bind hbl (c := '"') rfl, peek_bind_cons]
  simp +decide only [bump_bind_cons]
  rw [bind_of_ok (hs _ trivial)]
  simp only [h]
  simp [stringLiteral_toList, Nat.add_assoc]
  rfl

theorem name_reads {bl : List Char} (hbl : AllBlank bl) (s : String) {F : List Char → Prop} :
    Reads name (bl ++ (stringLiteral s).toList) s F :=
  text_reads hbl _ rfl

theorem word_reads {bl : List Char} (hbl : AllBlank bl) (x : UInt64) :
    Reads word (bl ++ (Nat.repr x.toNat).toList) x EndsNumber := by
  intro rest off hrest
  have hmax : x.toNat ≤ wordMax := by
    have := x.toNat_lt
    have hw : wordMax = 2 ^ 64 - 1 := rfl
    omega
  obtain ⟨c, cs, hcs⟩ := List.exists_cons_of_ne_nil (Nat.toList_repr ▸ Nat.toDigits_ne_nil :
    (Nat.repr x.toNat).toList ≠ [])
  have hdig : c.isDigit = true := by
    have hc : c ∈ Nat.toDigits 10 x.toNat := by rw [← Nat.toList_repr, hcs]; simp
    exact Nat.isDigit_of_mem_toDigits (by decide) (by decide) hc
  obtain ⟨hblank, hminus⟩ := isJsonBlank_of_isDigit hdig
  have hn := number_reads hmax rest (off + byteLength bl) hrest
  rw [hcs, List.cons_append] at hn
  apply placing_of_ok
  rw [hcs, List.append_assoc, List.cons_append, skipBlank_bind hbl hblank, peek_bind_cons]
  simp only [if_pos hdig]
  rw [bind_of_ok hn]
  simp [UInt64.ofNat_toNat, Nat.add_assoc]
  rfl

theorem dataType_reads {bl : List Char} (hbl : AllBlank bl) (d : Nat) (t : DataType)
    {F : List Char → Prop} :
    Reads dataType (bl ++ (typeText d t).toList) t F := by
  intro rest off _
  cases t with
  | int =>
    have hstate : bl ++ (typeText d .int).toList ++ rest =
        bl ++ '"' :: 'I' :: 'n' :: 't' :: '"' :: rest := by
      simp [typeText]
    rw [hstate, dataType, skipBlank_bind hbl (c := '"') rfl]
    simp [typeText]
    rfl
  | varchar n =>
    have hnum := fun o => word_reads allBlank_space n ('\n' :: (indent d).toList ++ '}' :: rest) o
      (fun c hc => by
        simp only [List.cons_append, List.head?_cons, Option.mem_def, Option.some.injEq] at hc
        subst hc
        decide)
    have hlit : (stringLiteral "Varchar").toList = ['"', 'V', 'a', 'r', 'c', 'h', 'a', 'r', '"'] := by
      decide
    -- the member's name is a fixed text, read and then followed by the colon
    have hname : ∀ (k : Bool → Reader DataType) (more : List Char) (o : Nat),
        (text "variant identifier" typeName >>= k)
          ⟨'"' :: 'V' :: 'a' :: 'r' :: 'c' :: 'h' :: 'a' :: 'r' :: '"' :: more, o⟩ =
        k false ⟨more, o + 9⟩ := fun _ _ _ => rfl
    have hcolon : ∀ (k : Unit → Reader DataType) (more : List Char) (o : Nat),
        (colon >>= k) ⟨':' :: more, o⟩ = k () ⟨more, o + 1⟩ := fun _ _ _ => rfl
    have hstate : bl ++ (typeText d (.varchar n)).toList ++ rest =
        bl ++ '{' :: ('\n' :: (indent (d + 1)).toList ++ '"' :: 'V' :: 'a' :: 'r' :: 'c' :: 'h' ::
          'a' :: 'r' :: '"' :: ':' :: ([' '] ++ (Nat.repr n.toNat).toList ++
            ('\n' :: (indent d).toList ++ '}' :: rest))) := by
      simp [typeText, object_toList, lines, line, memberText, hlit]
    rw [hstate, dataType, skipBlank_bind hbl (c := '{') rfl, peek_bind_cons]
    simp +decide only [bump_bind_cons]
    rw [skipBlank_bind (allBlank_indent (d + 1)) (c := '"') rfl, peek_bind_cons]
    simp +decide only []
    rw [hname, hcolon, if_neg Bool.false_ne_true, bind_of_ok (map_of_ok _ (hnum _)),
      skipBlank_bind (allBlank_indent d) (c := '}') rfl, peek_bind_cons]
    simp +decide only [bump_bind_cons]
    simp [typeText, object_toList, lines, line, memberText, hlit, Nat.add_assoc]
    simp +decide [Char.utf8Size]
    exact congrArg (EStateM.Result.ok _) (congrArg (Cursor.mk rest) (by omega))

/-! ### The records of a snapshot -/

theorem endsNumber_of_newline {r : List Char} (h : r.head? = some '\n') : EndsNumber r := by
  intro c hc
  rw [h, Option.mem_def, Option.some.injEq] at hc
  subst hc
  decide

theorem object_head (d : Nat) {ms : List (String × String)} (hne : ms ≠ []) :
    ∃ t, (object d ms).toList = '{' :: t :=
  ⟨_, by rw [object_toList d hne]; rfl⟩

theorem column_reads {bl : List Char} (hbl : AllBlank bl) (d : Nat) (c : Column)
    {F : List Char → Prop} : Reads (record columnShape) (bl ++ (columnText d c).toList) c F := by
  have h₀ : Reads (columnShape.readMember 0 columnShape.init) (' ' :: (stringLiteral c.name).toList)
      (some c.name, none) fun r => r.head? = some ',' :=
    (name_reads allBlank_space c.name).bind_pure _
  have h₁ : Reads (columnShape.readMember 1 (some c.name, none))
      (' ' :: (typeText (d + 1) c.type).toList) (some c.name, some c.type)
      fun r => r.head? = some '\n' :=
    (dataType_reads allBlank_space (d + 1) c.type).bind_pure _
  exact record_reads_pair hbl d rfl rfl h₀ rfl rfl h₁ rfl

theorem columnText_head (d : Nat) (c : Column) : ∃ t, (columnText d c).toList = '{' :: t :=
  object_head d (by simp)

theorem schema_reads {bl : List Char} (hbl : AllBlank bl) (d : Nat) (s : Schema)
    {F : List Char → Prop} : Reads (record schemaShape) (bl ++ (schemaText d s).toList) s F := by
  have h₀ : Reads (schemaShape.readMember 0 schemaShape.init) (' ' :: (stringLiteral s.name).toList)
      (some s.name, none) fun r => r.head? = some ',' :=
    (name_reads allBlank_space s.name).bind_pure _
  have hcols : Reads (list (record columnShape))
      ([' '] ++ (block "[" "]" (d + 1) (s.columns.map (columnText (d + 2)))).toList) s.columns
      fun r => r.head? = some '\n' :=
    list_reads allBlank_space (d + 1) fun c _ =>
      (columnText_head (d + 2) c).imp fun _ ht =>
        ⟨ht, by simpa using column_reads allBlank_nil (d + 2) c⟩
  have h₁ : Reads (schemaShape.readMember 1 (some s.name, none))
      (' ' :: (block "[" "]" (d + 1) (s.columns.map (columnText (d + 2)))).toList)
      (some s.name, some s.columns) fun r => r.head? = some '\n' :=
    hcols.bind_pure _
  exact record_reads_pair hbl d rfl rfl h₀ rfl rfl h₁ rfl

theorem entry_reads {bl : List Char} (hbl : AllBlank bl) (d : Nat) (e : TableEntry)
    {F : List Char → Prop} : Reads (record entryShape) (bl ++ (entryText d e).toList) e F := by
  have h₀ : Reads (entryShape.readMember 0 entryShape.init)
      (' ' :: (schemaText (d + 1) e.schema).toList) (some e.schema, none)
      fun r => r.head? = some ',' :=
    (schema_reads allBlank_space (d + 1) e.schema).bind_pure _
  have h₁ : Reads (entryShape.readMember 1 (some e.schema, none))
      (' ' :: (Nat.repr e.rowCount.toNat).toList) (some e.schema, some e.rowCount)
      fun r => r.head? = some '\n' :=
    ((word_reads allBlank_space e.rowCount).mono fun _ => endsNumber_of_newline).bind_pure _
  exact record_reads_pair hbl d rfl rfl h₀ rfl rfl h₁ rfl

theorem entryText_head (d : Nat) (e : TableEntry) : ∃ t, (entryText d e).toList = '{' :: t :=
  object_head d (by simp)

theorem snapshot_reads (s : Snapshot) {F : List Char → Prop} :
    Reads (record snapshotShape) ([] ++ s.toJson.toList) s F := by
  have htables : Reads (list (record entryShape))
      ([' '] ++ (block "[" "]" 1 (s.tables.map (entryText 2))).toList) s.tables
      fun r => r.head? = some '\n' :=
    list_reads allBlank_space 1 fun e _ =>
      (entryText_head 2 e).imp fun _ ht => ⟨ht, by simpa using entry_reads allBlank_nil 2 e⟩
  have h₀ : Reads (snapshotShape.readMember 0 snapshotShape.init)
      (' ' :: (block "[" "]" 1 (s.tables.map (entryText 2))).toList) (some s.tables)
      fun r => r.head? = some '\n' :=
    htables.bind_pure _
  exact record_reads_single allBlank_nil 0 rfl rfl h₀ rfl

theorem ofJson_toJson (s : Snapshot) : ofJson s.toJson = .ok s := by
  have h := snapshot_reads s (F := fun _ => True) [] 0 trivial
  rw [List.nil_append, List.append_nil] at h
  unfold ofJson
  simp only [EStateM.run, bind_of_ok h]
  rfl

end TinySql.Snapshot

/-! ### Saving and loading -/

namespace TinySql.Directory

theorem walkFault_eq_none {d : Directory} {done names : List String}
    (h : d.walkFault done names = none) : ∀ n ∈ names, ¬n.utf8ByteSize > nameLimit := by
  fun_induction d.walkFault done names with
  | case1 => simp
  | case2 => contradiction
  | case3 _ last hlast => simpa using hlast
  | case4 => contradiction
  | case5 => contradiction
  | case6 => contradiction
  | case7 _ n rest _ hn _ _ ih =>
    intro m hm
    rcases List.mem_cons.1 hm with rfl | hm
    · exact hn
    · exact ih h m hm

theorem inspect_of_write {d d' : Directory} {path text : String}
    (h : d.write path text = (d', .ok ())) : d'.inspect path = .file text := by
  unfold write at h
  simp only at h
  -- every refusal leaves an error, so the write passed each check
  split at h
  · simp at h
  rename_i hempty
  split at h
  · simp at h
  rename_i hpath
  split at h
  · simp at h
  rename_i hwalk
  split at h
  · simp at h
  rename_i hdir
  obtain ⟨rfl, -⟩ := Prod.mk.inj h
  have hlong : tooLong path = false := by
    simp only [tooLong, Bool.or_eq_false_iff, decide_eq_false_iff_not, List.any_eq_false]
    exact ⟨hpath, fun n hn => by simpa using walkFault_eq_none hwalk n hn⟩
  have hend : path.endsWith "/" = false := by
    simp only [Bool.or_eq_true, not_or, Bool.not_eq_true] at hdir
    exact hdir.2
  unfold inspect
  simp [hempty, hlong, hend, fileAt?]

end TinySql.Directory

namespace TinySql.Snapshot

theorem save_run (s : Snapshot) (path : String) (d : Directory) :
    (save s path : StateM Directory _).run d =
      ((d.write path s.toJson).2.mapError .io, (d.write path s.toJson).1) := rfl

theorem load_run (path : String) (d : Directory) :
    (load path : StateM Directory _).run d = (ofEntry (d.inspect path), d) := rfl

/-- A snapshot's JSON text reads back as the snapshot, so a snapshot saved at a path is loaded
back from it. -/
theorem load_after_save (s : Snapshot) :
    ofJson s.toJson = .ok s ∧
      ∀ (d d' : Directory) (path : String),
        (save s path : StateM Directory _).run d = (.ok (), d') →
          (load path : StateM Directory _).run d' = (.ok (some s), d') := by
  refine ⟨ofJson_toJson s, fun d d' path hsave => ?_⟩
  rw [save_run] at hsave
  obtain ⟨hres, hdir⟩ := Prod.mk.inj hsave
  have hw : d.write path s.toJson = (d', .ok ()) := by
    rw [← hdir]
    cases hr : (d.write path s.toJson).2 with
    | error e => rw [hr] at hres; cases hres
    | ok u => exact Prod.ext rfl hr
  rw [load_run, Directory.inspect_of_write hw]
  simp [ofEntry, ofJson_toJson]

/-- A snapshot whose table name holds a quote, a backslash, a control character and a character
beyond the Basic Multilingual Plane, with a `Varchar` of length zero and the largest row count,
is saved in an empty directory and loaded back. -/
theorem unusual_snapshot_loads :
    (save ⟨[⟨⟨"q\"b\\c\x01😀", [⟨"id", .int⟩, ⟨"v", .varchar 0⟩]⟩, 18446744073709551615⟩]⟩
        "db.json" : StateM Directory _).run Directory.empty =
      (.ok (), ⟨[(["db.json"], toJson ⟨[⟨⟨"q\"b\\c\x01😀", [⟨"id", .int⟩, ⟨"v", .varchar 0⟩]⟩,
        18446744073709551615⟩]⟩)], []⟩) ∧
    (load "db.json" : StateM Directory _).run
        ⟨[(["db.json"], toJson ⟨[⟨⟨"q\"b\\c\x01😀", [⟨"id", .int⟩, ⟨"v", .varchar 0⟩]⟩,
          18446744073709551615⟩]⟩)], []⟩ =
      (.ok (some ⟨[⟨⟨"q\"b\\c\x01😀", [⟨"id", .int⟩, ⟨"v", .varchar 0⟩]⟩,
        18446744073709551615⟩]⟩),
        ⟨[(["db.json"], toJson ⟨[⟨⟨"q\"b\\c\x01😀", [⟨"id", .int⟩, ⟨"v", .varchar 0⟩]⟩,
          18446744073709551615⟩]⟩)], []⟩) := by
  have hc : Directory.components "db.json" = ["db.json"] := by
    unfold Directory.components String.splitOn
    simp +decide only [if_false]
    -- one step of the splitter for each character of the name
    repeat (rw [String.splitOnAux]; simp +decide)
  have hsave : (save ⟨[⟨⟨"q\"b\\c\x01😀", [⟨"id", .int⟩, ⟨"v", .varchar 0⟩]⟩,
      18446744073709551615⟩]⟩ "db.json" : StateM Directory _).run Directory.empty =
      (.ok (), ⟨[(["db.json"], toJson ⟨[⟨⟨"q\"b\\c\x01😀", [⟨"id", .int⟩, ⟨"v", .varchar 0⟩]⟩,
        18446744073709551615⟩]⟩)], []⟩) := by
    have hend : "db.json".endsWith "/" = false := by decide +kernel
    rw [save_run]
    simp +decide [Directory.write, hc, hend, Directory.walkFault, Directory.isDir, Directory.empty]
    rfl
  exact ⟨hsave, (load_after_save _).2 _ _ _ hsave⟩

end TinySql.Snapshot
