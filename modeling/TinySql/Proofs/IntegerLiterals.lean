import Mathlib.Data.List.Induction
import Mathlib.Data.Nat.Digits.Defs
import TinySql.Value

/-!
Integer literals. A text is an integer literal when it is an optional `+` or `-` and then a
non-empty run of ASCII digits; it denotes the digits read in base ten, negated after `-`
(`IntegerLiteral`). Reading a 64-bit integer accepts exactly the literals whose value lies in
the signed 64-bit range, which is not symmetric: `-9223372036854775808` is read and
`9223372036854775808` is not. An INT column converts exactly these texts and an integer value
compares with exactly these literals, and the decimal text of every integer is one of them,
denoting that integer.
-/

namespace TinySql

namespace Text

/-- The value in base ten of a run of decimal digits, the most significant first. -/
def decimalValue (ds : List Char) : Nat :=
  Nat.ofDigits 10 (ds.reverse.map fun c => c.toNat - '0'.toNat)

/-- `s` is written `[+-]?[0-9]+` and denotes `v`. -/
def IntegerLiteral (s : String) (v : Int) : Prop :=
  ∃ sign ds, s.toList = sign ++ ds ∧ ds ≠ [] ∧ (∀ c ∈ ds, c.isDigit) ∧
    ((sign = [] ∨ sign = ['+']) ∧ v = decimalValue ds ∨ sign = ['-'] ∧ v = -(decimalValue ds : Int))

/-- `v` lies in the signed 64-bit range. -/
def IsInt64 (v : Int) : Prop := -9223372036854775808 ≤ v ∧ v ≤ 9223372036854775807

instance : DecidablePred IsInt64 := fun v => inferInstanceAs (Decidable (_ ≤ v ∧ v ≤ _))

/-! ## Digits -/

theorem digitsValue_append_singleton (ds : List Char) (c : Char) :
    digitsValue (ds ++ [c]) = 10 * digitsValue ds + (c.toNat - '0'.toNat) := by
  simp [digitsValue, List.foldl_append]

theorem decimalValue_append_singleton (ds : List Char) (c : Char) :
    decimalValue (ds ++ [c]) = (c.toNat - '0'.toNat) + 10 * decimalValue ds := by
  simp [decimalValue, Nat.ofDigits_cons]

theorem digitsValue_eq_decimalValue (ds : List Char) : digitsValue ds = decimalValue ds := by
  induction ds using List.reverseRecOn with
  | nil => rfl
  | append_singleton ds c ih =>
    rw [digitsValue_append_singleton, decimalValue_append_singleton, ih]
    omega

theorem digitsValue?_eq_some_iff {ds : List Char} {n : Nat} :
    digitsValue? ds = some n ↔ ds ≠ [] ∧ (∀ c ∈ ds, c.isDigit) ∧ n = decimalValue ds := by
  rw [digitsValue?, ← digitsValue_eq_decimalValue]
  by_cases hds : ds = []
  · subst hds
    simp only [List.isEmpty_nil, Bool.not_true, Bool.false_and, Bool.false_eq_true, if_false,
      ne_eq, not_true_eq_false, false_and, iff_false]
    simp
  · by_cases hdig : ∀ c ∈ ds, c.isDigit
    · have hall : ds.all Char.isDigit = true := List.all_eq_true.2 hdig
      have hne : ds.isEmpty = false := List.isEmpty_eq_false_iff.2 hds
      simp only [hne, hall, Bool.not_false, Bool.and_self, if_true, Option.some.injEq]
      exact ⟨fun h => ⟨hds, hdig, h.symm⟩, fun h => h.2.2.symm⟩
    · have hall : ds.all Char.isDigit = false :=
        Bool.eq_false_iff.2 fun hall => hdig (List.all_eq_true.1 hall)
      simp only [hall, Bool.and_false, Bool.false_eq_true, if_false, reduceCtorEq, false_iff]
      exact fun ⟨_, hdig', _⟩ => hdig hdig'

theorem splitSign_of_isDigit {ds : List Char} (h : ∀ c ∈ ds, c.isDigit) : splitSign ds = (false, ds) := by
  match ds, h with
  | [], _ => rfl
  | c :: rest, h =>
    have hc : c.isDigit := h c List.mem_cons_self
    have hminus : c ≠ '-' := by
      rintro rfl
      exact absurd hc (by decide)
    have hplus : c ≠ '+' := by
      rintro rfl
      exact absurd hc (by decide)
    simp [splitSign, hminus, hplus]

/-! ## Signed literals -/

theorem signedValue?_eq (s : String) :
    signedValue? s = (digitsValue? (splitSign s.toList).2).map
      fun n : Nat => if (splitSign s.toList).1 then -(n : Int) else n := by
  unfold signedValue?
  obtain ⟨negative, digits⟩ := splitSign s.toList
  dsimp only
  cases digitsValue? digits <;> rfl

theorem splitSign_spec (cs : List Char) :
    ∃ sign, cs = sign ++ (splitSign cs).2 ∧
      ((sign = [] ∨ sign = ['+']) ∧ (splitSign cs).1 = false ∨
        sign = ['-'] ∧ (splitSign cs).1 = true) := by
  fun_cases splitSign cs with
  | case1 rest => exact ⟨['-'], rfl, .inr ⟨rfl, rfl⟩⟩
  | case2 rest => exact ⟨['+'], rfl, .inl ⟨.inr rfl, rfl⟩⟩
  | case3 => exact ⟨[], rfl, .inl ⟨.inl rfl, rfl⟩⟩

theorem integerLiteral_of_signedValue? {s : String} {v : Int} (h : signedValue? s = some v) :
    IntegerLiteral s v := by
  rw [signedValue?_eq] at h
  obtain ⟨n, hn, hv⟩ := Option.map_eq_some_iff.1 h
  obtain ⟨hne, hdig, rfl⟩ := digitsValue?_eq_some_iff.1 hn
  obtain ⟨sign, hs, hsign⟩ := splitSign_spec s.toList
  refine ⟨sign, _, hs, hne, hdig, ?_⟩
  rcases hsign with ⟨hsign, hneg⟩ | ⟨hsign, hneg⟩
  · exact .inl ⟨hsign, by simpa [hneg] using hv.symm⟩
  · exact .inr ⟨hsign, by simpa [hneg] using hv.symm⟩

theorem signedValue?_of_integerLiteral {s : String} {v : Int} (h : IntegerLiteral s v) :
    signedValue? s = some v := by
  obtain ⟨sign, ds, hs, hne, hdig, hv⟩ := h
  have hn : digitsValue? ds = some (decimalValue ds) := digitsValue?_eq_some_iff.2 ⟨hne, hdig, rfl⟩
  rw [signedValue?_eq, hs]
  rcases hv with ⟨rfl | rfl, rfl⟩ | ⟨rfl, rfl⟩
  · simp [splitSign_of_isDigit hdig, hn]
  · simp [splitSign, hn]
  · simp [splitSign, hn]

theorem IntegerLiteral.unique {s : String} {v w : Int} (hv : IntegerLiteral s v)
    (hw : IntegerLiteral s w) : v = w :=
  Option.some.inj ((signedValue?_of_integerLiteral hv).symm.trans (signedValue?_of_integerLiteral hw))

/-! ## Decimal texts -/

theorem decimalValue_toDigits (m : Nat) : decimalValue (Nat.toDigits 10 m) = m := by
  rw [← digitsValue_eq_decimalValue]
  exact Nat.ofDigitChars_ten_toDigits

theorem integerLiteral_natRepr (m : Nat) : IntegerLiteral (Nat.repr m) m :=
  ⟨[], Nat.toDigits 10 m, by simp [Nat.toList_repr], Nat.toDigits_ne_nil,
    fun _ hc => Nat.isDigit_of_mem_toDigits (by decide) (by decide) hc,
    .inl ⟨.inl rfl, by rw [decimalValue_toDigits]⟩⟩

theorem integerLiteral_repr (k : Int) : IntegerLiteral k.repr k := by
  cases k with
  | ofNat m => exact integerLiteral_natRepr m
  | negSucc m =>
    refine ⟨['-'], Nat.toDigits 10 (m + 1), by simp [Int.repr, Nat.toList_repr],
      Nat.toDigits_ne_nil, fun _ hc => Nat.isDigit_of_mem_toDigits (by decide) (by decide) hc,
      .inr ⟨rfl, ?_⟩⟩
    rw [decimalValue_toDigits, Int.negSucc_eq]
    push_cast
    rfl

/-! ## 64-bit integers -/

theorem isInt64_toInt (w : Int64) : IsInt64 w.toInt := by
  have hlo := w.le_toInt
  have hhi := w.toInt_lt
  norm_num at hlo hhi
  exact ⟨hlo, by omega⟩

theorem toInt_ofInt_of_isInt64 {v : Int} (h : IsInt64 v) : (Int64.ofInt v).toInt = v := by
  obtain ⟨hlo, hhi⟩ := h
  exact Int64.toInt_ofInt_of_le (by norm_num; exact hlo) (by norm_num; omega)

theorem exists_int64_iff {P : Int → Prop} : (∃ w : Int64, P w.toInt) ↔ ∃ v, P v ∧ IsInt64 v := by
  constructor
  · rintro ⟨w, hw⟩
    exact ⟨w.toInt, hw, isInt64_toInt w⟩
  · rintro ⟨v, hv, hrange⟩
    exact ⟨Int64.ofInt v, by rwa [toInt_ofInt_of_isInt64 hrange]⟩

theorem parseInt64?_eq_some_iff {s : String} {w : Int64} :
    parseInt64? s = some w ↔ IntegerLiteral s w.toInt := by
  have hpow : Int.pow 2 63 = 9223372036854775808 := by decide
  constructor
  · intro h
    obtain ⟨v, hv, hw⟩ := Option.bind_eq_some_iff.1 h
    rw [hpow] at hw
    split at hw
    · rename_i hrange
      cases hw
      rw [toInt_ofInt_of_isInt64 ⟨hrange.1, by omega⟩]
      exact integerLiteral_of_signedValue? hv
    · cases hw
  · intro h
    obtain ⟨hlo, hhi⟩ := isInt64_toInt w
    rw [parseInt64?, signedValue?_of_integerLiteral h, Option.bind_some, hpow,
      if_pos ⟨hlo, by omega⟩, Int64.ofInt_toInt]

theorem parseInt64?_eq_none_iff {s : String} :
    parseInt64? s = none ↔ ¬∃ v, IntegerLiteral s v ∧ IsInt64 v := by
  rw [← exists_int64_iff, Option.eq_none_iff_forall_ne_some]
  simp [parseInt64?_eq_some_iff]

theorem exists_parseInt64?_iff {s : String} {v : Int} :
    (∃ w, parseInt64? s = some w ∧ w.toInt = v) ↔ IntegerLiteral s v ∧ IsInt64 v := by
  constructor
  · rintro ⟨w, hw, rfl⟩
    exact ⟨parseInt64?_eq_some_iff.1 hw, isInt64_toInt w⟩
  · rintro ⟨hv, hrange⟩
    have hw : (Int64.ofInt v).toInt = v := toInt_ofInt_of_isInt64 hrange
    refine ⟨Int64.ofInt v, parseInt64?_eq_some_iff.2 ?_, hw⟩
    rwa [hw]

theorem parseInt64?_repr {k : Int} (h : IsInt64 k) : parseInt64? k.repr = some (Int64.ofInt k) := by
  rw [parseInt64?_eq_some_iff, toInt_ofInt_of_isInt64 h]
  exact integerLiteral_repr k

theorem int64Text_eq_repr (w : Int64) : int64Text w = w.toInt.repr := by
  unfold int64Text
  cases w.toInt with
  | ofNat m => simp [Int.repr]
  | negSucc m => simp [Int.repr, Int.negSucc_lt_zero]

end Text

namespace Value

open Text

theorem coerce_int (name text : String) :
    coerce ⟨name, .int⟩ text = match parseInt64? text with
      | some w => .ok (int w)
      | none => .error (.invalidInteger name text) := rfl

theorem compareLiteral_int (w : Int64) (column text : String) :
    compareLiteral (int w) column text = match parseInt64? text with
      | some m => .ok (compare w.toInt m.toInt)
      | none => .error (.nonNumericComparison column text) := rfl

theorem coerce_int_eq_ok_iff {name text : String} {w : Int64} :
    coerce ⟨name, .int⟩ text = .ok (int w) ↔ parseInt64? text = some w := by
  rw [coerce_int]
  cases parseInt64? text <;> simp

theorem integerLiteral_display (w : Int64) : IntegerLiteral (int w).display w.toInt := by
  rw [display, int64Text_eq_repr]
  exact integerLiteral_repr w.toInt

/-- Converting literal text for an INT column and comparing an integer with literal text read
the same language: the literals `[+-]?[0-9]+` whose value lies in the signed 64-bit range, with
that value, and fail on every other text, naming it. The decimal text of every integer value is
such a literal, so a stored integer compares equal to the literal it was converted from. -/
theorem int_reads_exactly_integer_literals (name column text : String) (w : Int64) :
    (∀ v, (∃ x, coerce ⟨name, .int⟩ text = .ok (int x) ∧ x.toInt = v) ↔
      IntegerLiteral text v ∧ IsInt64 v) ∧
    (coerce ⟨name, .int⟩ text = .error (.invalidInteger name text) ↔
      ¬∃ v, IntegerLiteral text v ∧ IsInt64 v) ∧
    (∀ o, compareLiteral (int w) column text = .ok o ↔
      ∃ v, IntegerLiteral text v ∧ IsInt64 v ∧ o = compare w.toInt v) ∧
    (compareLiteral (int w) column text = .error (.nonNumericComparison column text) ↔
      ¬∃ v, IntegerLiteral text v ∧ IsInt64 v) ∧
    IntegerLiteral (int w).display w.toInt ∧ coerce ⟨name, .int⟩ (int w).display = .ok (int w) ∧
    (coerce ⟨name, .int⟩ text = .ok (int w) → compareLiteral (int w) column text = .ok .eq) := by
  refine ⟨fun v => ?_, ?_, fun o => ?_, ?_, integerLiteral_display w,
    coerce_int_eq_ok_iff.2 (parseInt64?_eq_some_iff.2 (integerLiteral_display w)), fun h => ?_⟩
  · simp only [coerce_int_eq_ok_iff]
    exact exists_parseInt64?_iff
  · rw [coerce_int, ← parseInt64?_eq_none_iff]
    cases parseInt64? text <;> simp
  · rw [compareLiteral_int]
    constructor
    · intro h
      cases hm : parseInt64? text with
      | none => simp [hm] at h
      | some m =>
        simp only [hm, Except.ok.injEq] at h
        obtain ⟨hv, hrange⟩ := exists_parseInt64?_iff.1 ⟨m, hm, rfl⟩
        exact ⟨m.toInt, hv, hrange, h.symm⟩
    · rintro ⟨v, hv, hrange, rfl⟩
      obtain ⟨m, hm, rfl⟩ := exists_parseInt64?_iff.2 ⟨hv, hrange⟩
      simp [hm]
  · rw [compareLiteral_int, ← parseInt64?_eq_none_iff]
    cases parseInt64? text <;> simp
  · simp [compareLiteral_int, coerce_int_eq_ok_iff.1 h]

end Value

end TinySql
