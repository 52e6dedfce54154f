import TinySql.Value
import Mathlib.Tactic.SplitIfs

/-!
Code point order and byte order. Texts compare by code point (`compareText`), and so does a
WHERE clause on a VARCHAR column (`Value.compareLiteral`). Comparing the texts' UTF-8 encodings
byte by byte, a shorter list before any longer one it begins, gives the same answer on every
pair of texts (`compareText_eq_byte_order`).

The argument goes one character at a time. A character's encoding is its code point written in
digits: a first digit of three to seven bits in the lead byte, then six bits in each continuation
byte, each digit under a fixed frame. Two characters whose encodings have one length therefore
compare, byte by byte, as their code points (`compare_utf8EncodeChar_of_utf8Size_eq`). The lead
byte grows with the code point and fixes the length (`leadByte_mono`,
`utf8Size_eq_of_leadByte_eq`), so two characters of different lengths are told apart by their lead
bytes alone. Either way a character's bytes settle the comparison or are equal, and only then is
the next character reached (`compare_utf8EncodeChar_append`).
-/

namespace TinySql.Text

open String (utf8EncodeChar)

theorem toNat_lt_codeSpace (c : Char) : c.toNat < 0x110000 := by
  have h := c.valid
  simp only [UInt32.isValidChar, Nat.isValidChar] at h
  rw [← Char.toNat_val]
  omega

theorem utf8Size_eq_ite (c : Char) :
    c.utf8Size = if c.toNat ≤ 0x7f then 1 else if c.toNat ≤ 0x7ff then 2
      else if c.toNat ≤ 0xffff then 3 else 4 := by
  delta Char.utf8Size
  simp only [UInt32.le_iff_toNat_le, UInt32.toNat_ofNatLT, Char.toNat_val]

theorem toUTF8_data_toList (s : String) :
    s.toUTF8.data.toList = s.toList.flatMap utf8EncodeChar := by
  rw [String.toUTF8_eq_toByteArray, ← String.utf8Encode_toList, List.utf8Encode,
    List.toList_data_toByteArray]

/-! ### Numbers written in digits -/

theorem eq_compare_of_iff {o : Ordering} {v w : Nat} (hlt : o = .lt ↔ v < w)
    (hgt : o = .gt ↔ w < v) : o = compare v w := by
  cases o with
  | lt => exact (Nat.compare_eq_lt.mpr (hlt.mp rfl)).symm
  | gt => exact (Nat.compare_eq_gt.mpr (hgt.mp rfl)).symm
  | eq =>
    have hnlt : ¬v < w := fun h => by cases hlt.mpr h
    have hngt : ¬w < v := fun h => by cases hgt.mpr h
    exact (Nat.compare_eq_eq.mpr (by omega)).symm

theorem compare_add_right (k m n : Nat) : compare (m + k) (n + k) = compare m n := by
  apply eq_compare_of_iff
  · rw [Nat.compare_eq_lt]; omega
  · rw [Nat.compare_eq_gt]; omega

theorem compare_div_then_mod (d a b : Nat) :
    (compare (a / d) (b / d)).then (compare (a % d) (b % d)) = compare a b := by
  rcases Nat.lt_trichotomy (a / d) (b / d) with h | h | h
  · rw [Nat.compare_eq_lt.mpr h, Ordering.lt_then, Nat.compare_eq_lt.mpr (Nat.lt_of_div_lt_div h)]
  · -- one quotient: `a` and `b` are one multiple of `d` plus their remainders
    have ha := Nat.div_add_mod a d
    have hb := Nat.div_add_mod b d
    rw [h] at ha
    rw [h, Nat.compare_eq_eq.mpr rfl, Ordering.eq_then]
    apply eq_compare_of_iff
    · rw [Nat.compare_eq_lt]; omega
    · rw [Nat.compare_eq_gt]; omega
  · rw [Nat.compare_eq_gt.mpr h, Ordering.gt_then, Nat.compare_eq_gt.mpr (Nat.lt_of_div_lt_div h)]

theorem compare_digit_then_mod (d e a b : Nat) :
    (compare (a / d % e) (b / d % e)).then (compare (a % d) (b % d)) =
      compare (a % (d * e)) (b % (d * e)) := by
  rw [← compare_div_then_mod d (a % (d * e)), Nat.mod_mul_right_div_self,
    Nat.mod_mul_right_div_self, Nat.mod_mul_right_mod, Nat.mod_mul_right_mod]

/-! ### Bytes -/

theorem compare_ofNat_ofNat {m n : Nat} (hm : m < 256) (hn : n < 256) :
    compare (UInt8.ofNat m) (UInt8.ofNat n) = compare m n := by
  apply eq_compare_of_iff
  · rw [Std.compare_eq_lt, UInt8.lt_iff_toNat_lt, UInt8.toNat_ofNat', UInt8.toNat_ofNat',
      Nat.mod_eq_of_lt hm, Nat.mod_eq_of_lt hn]
  · rw [Std.compare_eq_gt, UInt8.lt_iff_toNat_lt, UInt8.toNat_ofNat', UInt8.toNat_ofNat',
      Nat.mod_eq_of_lt hm, Nat.mod_eq_of_lt hn]

theorem compare_append_of_length_eq {α : Type} [Ord α] {p q : List α} (h : p.length = q.length)
    (xs ys : List α) : compare (p ++ xs) (q ++ ys) = (compare p q).then (compare xs ys) := by
  induction p generalizing q with
  | nil =>
    cases q with
    | nil => rfl
    | cons => simp at h
  | cons x p ih =>
    cases q with
    | nil => simp at h
    | cons y q =>
      rw [List.cons_append, List.cons_append, List.compare_cons_cons, List.compare_cons_cons,
        ih (by simpa using h), Ordering.then_assoc]

/-! ### One character -/

theorem le_boundary_iff_of_utf8Size_eq {a b : Char} (h : a.utf8Size = b.utf8Size) :
    (b.toNat ≤ 0x7f ↔ a.toNat ≤ 0x7f) ∧ (b.toNat ≤ 0x7ff ↔ a.toNat ≤ 0x7ff) ∧
      (b.toNat ≤ 0xffff ↔ a.toNat ≤ 0xffff) := by
  rw [utf8Size_eq_ite, utf8Size_eq_ite] at h
  split_ifs at h <;> omega

theorem compare_utf8EncodeChar_of_utf8Size_eq {a b : Char} (h : a.utf8Size = b.utf8Size) :
    compare (utf8EncodeChar a) (utf8EncodeChar b) = compare a.toNat b.toNat := by
  obtain ⟨h₁, h₂, h₃⟩ := le_boundary_iff_of_utf8Size_eq h
  have ha := toNat_lt_codeSpace a
  have hb := toNat_lt_codeSpace b
  delta utf8EncodeChar
  simp only [Char.toNat_val, h₁, h₂, h₃]
  -- Both encodings take the branch of their common length. Past the frames, the lead digit is
  -- the whole quotient, and the digits merge from the last one up into the code point.
  split_ifs <;>
    simp (disch := omega) only [List.compare_cons_cons, List.compare_nil_nil, Ordering.then_eq,
      compare_ofNat_ofNat, compare_add_right, Nat.mod_eq_of_lt, compare_digit_then_mod,
      compare_div_then_mod, Nat.reduceMul]

/-- The first byte of a character's UTF-8 encoding. -/
def leadByte (c : Char) : Nat :=
  if c.toNat ≤ 0x7f then c.toNat
  else if c.toNat ≤ 0x7ff then c.toNat / 64 % 32 + 0xc0
  else if c.toNat ≤ 0xffff then c.toNat / 4096 % 16 + 0xe0
  else c.toNat / 262144 % 8 + 0xf0

theorem leadByte_lt (c : Char) : leadByte c < 256 := by
  unfold leadByte
  split_ifs <;> omega

theorem utf8EncodeChar_eq_cons (c : Char) :
    ∃ rest, utf8EncodeChar c = UInt8.ofNat (leadByte c) :: rest := by
  delta utf8EncodeChar
  unfold leadByte
  simp only [Char.toNat_val]
  split_ifs <;> exact ⟨_, rfl⟩

theorem leadByte_mono {a b : Char} (h : a.toNat ≤ b.toNat) : leadByte a ≤ leadByte b := by
  have hb := toNat_lt_codeSpace b
  unfold leadByte
  split_ifs <;> omega

theorem utf8Size_eq_of_leadByte_eq {a b : Char} (h : leadByte a = leadByte b) :
    a.utf8Size = b.utf8Size := by
  have ha := toNat_lt_codeSpace a
  have hb := toNat_lt_codeSpace b
  unfold leadByte at h
  rw [utf8Size_eq_ite, utf8Size_eq_ite]
  split_ifs at h ⊢ <;> omega

theorem compare_leadByte {a b : Char} (h : leadByte a ≠ leadByte b) :
    compare (leadByte a) (leadByte b) = compare a.toNat b.toNat := by
  rcases Nat.lt_trichotomy a.toNat b.toNat with hab | hab | hab
  · have := leadByte_mono (Nat.le_of_lt hab)
    rw [Nat.compare_eq_lt.mpr hab, Nat.compare_eq_lt.mpr (by omega)]
  · exact absurd (congrArg leadByte (Char.toNat_inj.mp hab)) h
  · have := leadByte_mono (Nat.le_of_lt hab)
    rw [Nat.compare_eq_gt.mpr hab, Nat.compare_eq_gt.mpr (by omega)]

theorem compare_utf8EncodeChar_append (a b : Char) (xs ys : List UInt8) :
    compare (utf8EncodeChar a ++ xs) (utf8EncodeChar b ++ ys) =
      (compare a.toNat b.toNat).then (compare xs ys) := by
  by_cases hsize : a.utf8Size = b.utf8Size
  · rw [compare_append_of_length_eq (by simp [hsize]), compare_utf8EncodeChar_of_utf8Size_eq hsize]
  · -- encodings of different lengths differ in their lead bytes, which decide
    have hlead : leadByte a ≠ leadByte b := fun h => hsize (utf8Size_eq_of_leadByte_eq h)
    obtain ⟨p, hp⟩ := utf8EncodeChar_eq_cons a
    obtain ⟨q, hq⟩ := utf8EncodeChar_eq_cons b
    rw [hp, hq, List.cons_append, List.cons_append, List.compare_cons_cons,
      compare_ofNat_ofNat (leadByte_lt a) (leadByte_lt b), ← compare_leadByte hlead]
    have hne : compare (leadByte a) (leadByte b) ≠ .eq := fun h => hlead (Nat.compare_eq_eq.mp h)
    cases hc : compare (leadByte a) (leadByte b) with
    | lt => rfl
    | eq => exact absurd hc hne
    | gt => rfl

/-! ### Texts -/

theorem codePointOrder_cons (a b : Char) (as bs : List Char) :
    codePointOrder (a :: as) (b :: bs) = (compare a.toNat b.toNat).then (codePointOrder as bs) := by
  rw [codePointOrder]
  split_ifs with hlt hgt
  · rw [Nat.compare_eq_lt.mpr hlt, Ordering.lt_then]
  · rw [Nat.compare_eq_gt.mpr hgt, Ordering.gt_then]
  · rw [Nat.compare_eq_eq.mpr (by omega), Ordering.eq_then]

theorem compare_flatMap_utf8EncodeChar (as bs : List Char) :
    compare (as.flatMap utf8EncodeChar) (bs.flatMap utf8EncodeChar) = codePointOrder as bs := by
  induction as generalizing bs with
  | nil =>
    cases bs with
    | nil => rfl
    | cons b bs =>
      obtain ⟨q, hq⟩ := utf8EncodeChar_eq_cons b
      rw [List.flatMap_cons, hq, List.flatMap_nil, List.cons_append]
      rfl
  | cons a as ih =>
    cases bs with
    | nil =>
      obtain ⟨p, hp⟩ := utf8EncodeChar_eq_cons a
      rw [List.flatMap_cons, hp, List.flatMap_nil, List.cons_append]
      rfl
    | cons b bs =>
      rw [List.flatMap_cons, List.flatMap_cons, compare_utf8EncodeChar_append, ih,
        codePointOrder_cons]

/-- Texts compare by code point exactly as their UTF-8 encodings compare byte by byte. -/
theorem compareText_eq_byte_order (s t : String) :
    compareText s t = compare s.toUTF8.data.toList t.toUTF8.data.toList := by
  rw [toUTF8_data_toList, toUTF8_data_toList, compare_flatMap_utf8EncodeChar]
  rfl

-- Lead bytes decide between encodings of different lengths.
example : compare "\uffff".toUTF8.data.toList "😀".toUTF8.data.toList = .lt ∧
    compare "é".toUTF8.data.toList "z".toUTF8.data.toList = .gt := by
  decide

end TinySql.Text
