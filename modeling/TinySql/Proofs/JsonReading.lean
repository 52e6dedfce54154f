import TinySql.Json.Reader
import TinySql.Json.Escape

/-!
Reading back the JSON pieces this library writes. `Reads r w v follow` says that the reader
`r`, run on the characters `w` and whatever text `follow` admits after them, takes exactly `w`,
counts its bytes and yields `v`. Readers put together with `>>=` read the texts put together
with `++` (`Reads.bind`), so a whole document is read chunk by chunk.

The chunks proved here are blanks and punctuation, a string literal with every escape that
`escapeChar` writes (`string_reads`), and the decimal digits of a number up to `2^64 - 1`
(`number_reads`). Each reader's step on one character is stated once and the runs over a
whole text follow by induction: on the characters of a string, and on the digits of a number
from the most significant one.
-/

namespace TinySql.Json

/-! ### Byte lengths -/

theorem foldl_utf8Size (cs : List Char) (n : Nat) :
    cs.foldl (fun n c => n + c.utf8Size) n = n + cs.foldl (fun n c => n + c.utf8Size) 0 := by
  induction cs generalizing n with
  | nil => rfl
  | cons c cs ih =>
    rw [List.foldl_cons, List.foldl_cons, ih, ih (0 + c.utf8Size)]
    omega

@[simp] theorem byteLength_nil : byteLength [] = 0 := rfl

@[simp] theorem byteLength_cons (c : Char) (cs : List Char) :
    byteLength (c :: cs) = c.utf8Size + byteLength cs := by
  rw [byteLength, List.foldl_cons, foldl_utf8Size, Nat.zero_add]
  rfl

@[simp] theorem byteLength_append (as bs : List Char) :
    byteLength (as ++ bs) = byteLength as + byteLength bs := by
  induction as with
  | nil => simp
  | cons a as ih => simp [ih, Nat.add_assoc]

/-! ### One step of a reader -/

section Steps

variable {α β : Type}

theorem bind_of_ok {x : Reader α} {f : α → Reader β} {s s' : Cursor} {a : α}
    (h : x s = .ok a s') : (x >>= f) s = f a s' := by
  show EStateM.bind x f s = f a s'
  simp only [EStateM.bind, h]

theorem map_of_ok {r : Reader α} {s s' : Cursor} {a : α} (g : α → β) (h : r s = .ok a s') :
    (g <$> r) s = .ok (g a) s' := by
  show EStateM.map g r s = _
  simp only [EStateM.map, h]

theorem placing_of_ok {r : Reader α} {s s' : Cursor} {a : α} (h : r s = .ok a s') :
    placing r s = .ok a s' := by
  show EStateM.tryCatch r _ s = _
  delta EStateM.tryCatch
  simp only [h]

theorem attempt_of_ok {r : Reader α} {s s' : Cursor} {a : α} (h : r s = .ok a s') :
    attempt r s = .ok (.ok a) s' := by
  show EStateM.tryCatch (EStateM.map Except.ok r) _ s = _
  delta EStateM.tryCatch
  simp only [EStateM.map, h]

@[simp] theorem get_bind (f : Cursor → Reader β) (s : Cursor) : (get >>= f) s = f s s := rfl

@[simp] theorem pure_bind_apply (a : α) (f : α → Reader β) (s : Cursor) :
    (pure a >>= f) s = f a s := rfl

@[simp] theorem peek_bind_cons (f : Option Char → Reader β) (c : Char) (rest : List Char)
    (off : Nat) : (peek >>= f) ⟨c :: rest, off⟩ = f (some c) ⟨c :: rest, off⟩ := rfl

@[simp] theorem bump_bind_cons (f : Unit → Reader β) (c : Char) (rest : List Char) (off : Nat) :
    (bump >>= f) ⟨c :: rest, off⟩ = f () ⟨rest, off + c.utf8Size⟩ := rfl

/-- Blanks before a character that is none stop the skip there. -/
def AllBlank (bl : List Char) : Prop := ∀ b ∈ bl, isJsonBlank b = true

theorem allBlank_nil : AllBlank [] := fun _ h => absurd h List.not_mem_nil

theorem allBlank_space : AllBlank [' '] := by
  intro b hb
  rw [List.mem_singleton] at hb
  rw [hb]
  rfl

theorem skipBlank_apply (s : Cursor) :
    skipBlank s = .ok () ⟨s.rest.dropWhile isJsonBlank,
      s.offset + byteLength (s.rest.takeWhile isJsonBlank)⟩ := rfl

theorem skipBlank_cons {c : Char} (hc : isJsonBlank c = false) (rest : List Char) (off : Nat) :
    skipBlank ⟨c :: rest, off⟩ = .ok () ⟨c :: rest, off⟩ := by
  simp [skipBlank_apply, hc]

theorem skipBlank_append {bl : List Char} (hbl : AllBlank bl) (rest : List Char) (off : Nat) :
    skipBlank ⟨bl ++ rest, off⟩ = skipBlank ⟨rest, off + byteLength bl⟩ := by
  have hd : (bl ++ rest).dropWhile isJsonBlank = rest.dropWhile isJsonBlank :=
    List.dropWhile_append_of_pos hbl
  have ht : (bl ++ rest).takeWhile isJsonBlank = bl ++ rest.takeWhile isJsonBlank :=
    List.takeWhile_append_of_pos hbl
  simp only [skipBlank_apply, hd, ht, byteLength_append, Nat.add_assoc]

theorem skipBlank_bind_cons {c : Char} (hc : isJsonBlank c = false) (f : Unit → Reader β)
    (rest : List Char) (off : Nat) :
    (skipBlank >>= f) ⟨c :: rest, off⟩ = f () ⟨c :: rest, off⟩ :=
  bind_of_ok (skipBlank_cons hc rest off)

theorem skipBlank_bind {bl : List Char} (hbl : AllBlank bl) {c : Char}
    (hc : isJsonBlank c = false) (f : Unit → Reader β) (rest : List Char) (off : Nat) :
    (skipBlank >>= f) ⟨bl ++ c :: rest, off⟩ = f () ⟨c :: rest, off + byteLength bl⟩ :=
  bind_of_ok ((skipBlank_append hbl _ off).trans (skipBlank_cons hc _ _))

end Steps

/-! ### Reading a chunk of text -/

/-- The reader takes exactly the characters `w` and yields `v`, whatever text that `follow`
admits comes after them; the offset grows by the bytes of `w`. -/
def Reads {α : Type} (r : Reader α) (w : List Char) (v : α) (follow : List Char → Prop) : Prop :=
  ∀ rest offset, follow rest → r ⟨w ++ rest, offset⟩ = .ok v ⟨rest, offset + byteLength w⟩

namespace Reads

variable {α β : Type} {r : Reader α} {w w₁ w₂ : List Char} {a : α} {F G : List Char → Prop}

theorem bind {f : α → Reader β} {b : β} {F₁ : List Char → Prop} (h₁ : Reads r w₁ a F₁)
    (h₂ : Reads (f a) w₂ b F) (hF : ∀ rest, F rest → F₁ (w₂ ++ rest)) :
    Reads (r >>= f) (w₁ ++ w₂) b F := by
  intro rest off hrest
  rw [List.append_assoc, bind_of_ok (h₁ _ off (hF rest hrest)), h₂ rest _ hrest,
    byteLength_append, Nat.add_assoc]

theorem map (h : Reads r w a F) (g : α → β) : Reads (g <$> r) w (g a) F :=
  fun rest off hrest => map_of_ok g (h rest off hrest)

theorem bind_pure (h : Reads r w a F) (g : α → β) : Reads (r >>= fun x => pure (g x)) w (g a) F :=
  fun rest off hrest => (bind_of_ok (h rest off hrest)).trans rfl

theorem placing (h : Reads r w a F) : Reads (Json.placing r) w a F :=
  fun rest off hrest => placing_of_ok (h rest off hrest)

theorem attempt (h : Reads r w a F) : Reads (Json.attempt r) w (.ok a) F :=
  fun rest off hrest => attempt_of_ok (h rest off hrest)

theorem mono (h : Reads r w a F) (hG : ∀ rest, G rest → F rest) : Reads r w a G :=
  fun rest off hrest => h rest off (hG rest hrest)

end Reads

theorem colon_reads {F : List Char → Prop} : Reads colon [':'] () F := fun _ _ _ => rfl

theorem objectEnd_reads {F : List Char → Prop} : Reads objectEnd ['}'] () F := fun _ _ _ => rfl

theorem arrayEnd_reads {F : List Char → Prop} : Reads arrayEnd [']'] () F := fun _ _ _ => rfl

/-! ### Strings -/

theorem hexValue_digitChar : ∀ j < 16, hexValue? (Nat.digitChar j) = some j := by decide

theorem utf8Size_digitChar : ∀ j < 16, (Nat.digitChar j).utf8Size = 1 := by decide

theorem hexQuad_cons {a b d e : Char} {va vb vd ve : Nat} (ha : hexValue? a = some va)
    (hb : hexValue? b = some vb) (hd : hexValue? d = some vd) (he : hexValue? e = some ve)
    (more : List Char) (off : Nat) :
    hexQuad ⟨a :: b :: d :: e :: more, off⟩ =
      .ok (((va * 16 + vb) * 16 + vd) * 16 + ve) ⟨more, off + 4⟩ := by
  rw [hexQuad, get_bind]
  simp only [List.take, List.filterMap_cons, ha, hb, hd, he, List.filterMap_nil]
  rfl

theorem unicodeEscape_of_lt {s s' : Cursor} {n : Nat} (h : hexQuad s = .ok n s')
    (hn : n < 0xD800) : unicodeEscape s = .ok (Char.ofNat n) s' := by
  rw [unicodeEscape, bind_of_ok h, if_neg (by omega), if_pos (Or.inl hn)]
  rfl

theorem controlEscape_toList : ∀ k < 0x20,
    (("\\u00" ++ if k < 0x10 then "0" else "") ++ Text.hexDigits k).toList =
      ['\\', 'u', '0', '0', Nat.digitChar (k / 16), Nat.digitChar (k % 16)] := by
  decide

theorem stringChars_unicode {k : Nat} (hk : k < 0x20) (acc more : List Char) (fuel off : Nat) :
    stringChars acc (fuel + 1)
        ⟨'\\' :: 'u' :: '0' :: '0' :: Nat.digitChar (k / 16) :: Nat.digitChar (k % 16) :: more,
          off⟩ =
      stringChars (Char.ofNat k :: acc) fuel ⟨more, off + 6⟩ := by
  have hq := hexQuad_cons (hexValue_digitChar 0 (by decide)) (hexValue_digitChar 0 (by decide))
    (hexValue_digitChar (k / 16) (by omega)) (hexValue_digitChar (k % 16) (by omega)) more (off + 2)
  have hv : ((0 * 16 + 0) * 16 + k / 16) * 16 + k % 16 = k := by omega
  rw [hv] at hq
  -- the backslash and the `u` are read before the four digits
  have he : escape ⟨'u' :: '0' :: '0' :: Nat.digitChar (k / 16) :: Nat.digitChar (k % 16) :: more,
      off + 1⟩ = .ok (Char.ofNat k) ⟨more, off + 6⟩ := unicodeEscape_of_lt hq (by omega)
  rw [stringChars]
  simp only [peek_bind_cons, bump_bind_cons]
  exact bind_of_ok he

theorem stringChars_plain {c : Char} (hq : c ≠ '"') (hb : c ≠ '\\') (hc : ¬c.toNat < 0x20)
    (acc more : List Char) (fuel off : Nat) :
    stringChars acc (fuel + 1) ⟨c :: more, off⟩ =
      stringChars (c :: acc) fuel ⟨more, off + c.utf8Size⟩ := by
  rw [stringChars]
  simp only [peek_bind_cons, bump_bind_cons]
  rw [if_neg hc]

theorem stringChars_escapeChar (c : Char) (acc more : List Char) (fuel off : Nat) :
    stringChars acc (fuel + 1) ⟨(escapeChar c).toList ++ more, off⟩ =
      stringChars (c :: acc) fuel ⟨more, off + byteLength (escapeChar c).toList⟩ := by
  unfold escapeChar
  split
  case h_8 hq hb _ _ _ _ _ =>
    split
    case isTrue hlt =>
      have hk : c.toNat / 16 < 16 ∧ c.toNat % 16 < 16 := ⟨by omega, by omega⟩
      rw [controlEscape_toList c.toNat hlt]
      simp only [List.cons_append, List.nil_append, stringChars_unicode hlt, Char.ofNat_toNat,
        byteLength_cons, byteLength_nil, utf8Size_digitChar _ hk.1, utf8Size_digitChar _ hk.2]
      rfl
    case isFalse hlt =>
      simp only [String.toList_singleton, List.singleton_append, byteLength_cons,
        byteLength_nil, Nat.add_zero]
      exact stringChars_plain (fun h => hq h) (fun h => hb h) hlt acc more fuel off
  -- the seven escapes by a letter are fixed texts, read back by running the reader on them
  all_goals rfl

/-- The characters of a text inside its string literal, each written as `escapeChar` writes it. -/
def escaped (cs : List Char) : List Char := cs.flatMap fun c => (escapeChar c).toList

@[simp] theorem escaped_nil : escaped [] = [] := rfl

@[simp] theorem escaped_cons (c : Char) (cs : List Char) :
    escaped (c :: cs) = (escapeChar c).toList ++ escaped cs := rfl

theorem stringLiteral_toList (s : String) :
    (stringLiteral s).toList = '"' :: escaped s.toList ++ ['"'] := by
  simp [stringLiteral, escaped, String.toList_join, List.flatMap_map]

theorem escapeChar_ne_nil (c : Char) : (escapeChar c).toList ≠ [] := by
  unfold escapeChar
  split
  case h_8 =>
    split
    case isTrue hlt => rw [controlEscape_toList c.toNat hlt]; simp
    case isFalse => simp
  all_goals decide

theorem length_le_escaped (cs : List Char) : cs.length ≤ (escaped cs).length := by
  induction cs with
  | nil => simp
  | cons c cs ih =>
    have := List.length_pos_iff.2 (escapeChar_ne_nil c)
    simp only [List.length_cons, escaped_cons, List.length_append]
    omega

theorem stringChars_escaped (cs : List Char) (acc rest : List Char) (fuel off : Nat)
    (hfuel : cs.length < fuel) :
    stringChars acc fuel ⟨escaped cs ++ '"' :: rest, off⟩ =
      .ok (String.ofList (acc.reverse ++ cs)) ⟨rest, off + byteLength (escaped cs ++ ['"'])⟩ := by
  obtain ⟨fuel, rfl⟩ : ∃ f, fuel = f + 1 := ⟨fuel - 1, by omega⟩
  induction cs generalizing acc fuel off with
  | nil =>
    simp only [escaped_nil, List.nil_append, List.append_nil]
    rfl
  | cons c cs ih =>
    simp only [List.length_cons] at hfuel
    obtain ⟨fuel, rfl⟩ : ∃ f, fuel = f + 1 := ⟨fuel - 1, by omega⟩
    rw [escaped_cons, List.append_assoc, stringChars_escapeChar,
      ih (c :: acc) _ fuel (by omega)]
    simp only [List.reverse_cons, List.append_assoc, List.singleton_append, byteLength_append,
      Nat.add_assoc]

theorem string_reads (s : String) {F : List Char → Prop} :
    Reads string (escaped s.toList ++ ['"']) s F := by
  intro rest off _
  have hfuel : s.toList.length < (escaped s.toList ++ '"' :: rest).length + 1 := by
    have := length_le_escaped s.toList
    simp only [List.length_append]
    omega
  rw [string, get_bind]
  simp only [List.append_assoc, List.singleton_append]
  rw [stringChars_escaped _ _ _ _ _ hfuel]
  simp

/-! ### Numbers -/

/-- What may follow the digits of a number without extending it. -/
def EndsNumber (rest : List Char) : Prop :=
  ∀ c ∈ rest.head?, c.isDigit = false ∧ c ≠ '.' ∧ c ≠ 'e' ∧ c ≠ 'E'

theorem digitChar_isDigit : ∀ d < 10, (Nat.digitChar d).isDigit = true := by decide

theorem exceeds_wordMax_eq_false {n d : Nat} (h : 10 * n + d ≤ wordMax) :
    exceeds n d wordMax = false := by
  have hw : wordMax = 18446744073709551615 := rfl
  rw [hw] at h ⊢
  simp only [exceeds, Bool.and_eq_false_iff, Bool.or_eq_false_iff, decide_eq_false_iff_not]
  omega

theorem peekDigit_end {rest : List Char} (h : EndsNumber rest) (off : Nat) :
    peekDigit ⟨rest, off⟩ = .ok none ⟨rest, off⟩ := by
  cases rest with
  | nil => rfl
  | cons c more =>
    have hc := (h c rfl).1
    rw [peekDigit, peek_bind_cons]
    simp only [hc]
    rfl

theorem peekDigit_digit {d : Nat} (hd : d < 10) (rest : List Char) (off : Nat) :
    peekDigit ⟨Nat.digitChar d :: rest, off⟩ =
      .ok (some d) ⟨Nat.digitChar d :: rest, off⟩ := by
  have hv : (Nat.digitChar d).toNat - '0'.toNat = d := Nat.toNat_digitChar_sub_48_of_lt_ten hd
  rw [peekDigit, peek_bind_cons]
  simp only [digitChar_isDigit d hd, if_true, hv]
  rfl

theorem numberTail_end {rest : List Char} (h : EndsNumber rest) (n off : Nat) :
    numberTail true n ⟨rest, off⟩ = .ok (.unsigned n) ⟨rest, off⟩ := by
  cases rest with
  | nil => rfl
  | cons c more =>
    obtain ⟨-, hp, he, hE⟩ := h c rfl
    -- simp passes over the three branches by these facts about the peeked character
    have hp' : some c ≠ some '.' := by simpa using hp
    have he' : some c ≠ some 'e' := by simpa using he
    have hE' : some c ≠ some 'E' := by simpa using hE
    rw [numberTail, peek_bind_cons]
    simp only [if_true]
    rfl

theorem integerDigits_end {rest : List Char} (h : EndsNumber rest) (n fuel off : Nat) :
    integerDigits true n fuel ⟨rest, off⟩ = .ok (.unsigned n) ⟨rest, off⟩ := by
  cases fuel with
  | zero => exact numberTail_end h n off
  | succ fuel =>
    rw [integerDigits, bind_of_ok (peekDigit_end h off)]
    exact numberTail_end h n off

theorem integerDigits_digit {n d : Nat} (hd : d < 10) (hmax : 10 * n + d ≤ wordMax)
    (rest : List Char) (fuel off : Nat) :
    integerDigits true n (fuel + 1) ⟨Nat.digitChar d :: rest, off⟩ =
      integerDigits true (10 * n + d) fuel ⟨rest, off + (Nat.digitChar d).utf8Size⟩ := by
  rw [integerDigits, bind_of_ok (peekDigit_digit hd rest off)]
  simp only [exceeds_wordMax_eq_false hmax]
  rfl

theorem number_digit {d : Nat} (hd : d < 10) (h0 : 0 < d) (rest : List Char) (off : Nat) :
    number true ⟨Nat.digitChar d :: rest, off⟩ =
      integerDigits true d (rest.length + 1) ⟨rest, off + (Nat.digitChar d).utf8Size⟩ := by
  have hne : Nat.digitChar d ≠ '0' := by simp only [ne_eq, Nat.digitChar_eq_zero]; omega
  have hv : (Nat.digitChar d).toNat - '0'.toNat = d := Nat.toNat_digitChar_sub_48_of_lt_ten hd
  rw [number, peek_bind_cons]
  simp only [if_neg hne, if_pos (digitChar_isDigit d hd), bump_bind_cons, get_bind, hv]

theorem number_toDigits {n : Nat} (hn : 0 < n) (hmax : n ≤ wordMax) (rest : List Char)
    (off : Nat) :
    number true ⟨Nat.toDigits 10 n ++ rest, off⟩ =
      integerDigits true n (rest.length + 1) ⟨rest, off + byteLength (Nat.toDigits 10 n)⟩ := by
  induction n using Nat.strongRecOn generalizing rest off with
  | _ n ih =>
    by_cases hlt : n < 10
    case pos =>
      rw [Nat.toDigits_of_lt_base hlt, List.singleton_append, number_digit hlt hn]
      simp
    case neg =>
      have hq : 0 < n / 10 := by omega
      have hmod : n % 10 < 10 := Nat.mod_lt n (by decide)
      have hsum : 10 * (n / 10) + n % 10 = n := Nat.div_add_mod n 10
      rw [Nat.toDigits_of_base_le (by decide) (by omega), List.append_assoc,
        List.singleton_append, ih (n / 10) (by omega) hq (by omega), List.length_cons,
        integerDigits_digit hmod (by omega), hsum]
      simp [Nat.add_assoc]

theorem number_reads {n : Nat} (hmax : n ≤ wordMax) :
    Reads (number true) (Nat.repr n).toList (.unsigned n) EndsNumber := by
  intro rest off hrest
  rw [Nat.toList_repr]
  rcases Nat.eq_zero_or_pos n with rfl | hn
  case inl =>
    -- a zero stands alone
    rw [Nat.toDigits_zero, number, List.singleton_append, peek_bind_cons]
    simp only [if_pos, bump_bind_cons, bind_of_ok (peekDigit_end hrest _)]
    exact numberTail_end hrest 0 _
  case inr => rw [number_toDigits hn hmax, integerDigits_end hrest]

end TinySql.Json
