/-!
The shortest decimal form of a double. A finite double `m · 2^q` stands for every real in its
rounding interval; its shortest form is the decimal with the fewest significant digits that
lies in that interval, the nearest to the double when several have that many digits, and the
one with the even last digit when two are equally near. The ends of the interval belong to it
when `m` is even, since a tie then rounds to the double itself. All comparisons are exact, in
natural numbers.
-/

namespace TinySql.Decimal

/-- A nonnegative number `coeff · 10^ten · 2^two`. -/
structure Scaled where
  coeff : Nat
  ten : Int
  two : Int

/-- Two scaled numbers as natural numbers with the same positive factor removed from both. -/
def Scaled.common (x y : Scaled) : Nat × Nat :=
  let t := min x.ten y.ten
  let w := min x.two y.two
  (x.coeff * Nat.pow 10 (x.ten - t).toNat * Nat.pow 2 (x.two - w).toNat,
    y.coeff * Nat.pow 10 (y.ten - t).toNat * Nat.pow 2 (y.two - w).toNat)

def Scaled.le (x y : Scaled) : Bool := let (a, b) := x.common y; a ≤ b

def Scaled.lt (x y : Scaled) : Bool := let (a, b) := x.common y; a < b

/-- A finite nonzero double: its sign, and `m`, `q` with magnitude `m · 2^q`. -/
structure Binary where
  negative : Bool
  m : Nat
  q : Int
  /-- The gap to the next double below is half the gap above. -/
  narrowBelow : Bool

/-- The sign, significand and exponent of a double, read from its bits. -/
def Binary.ofFloat (f : Float) : Binary :=
  let bits : Nat := f.toBits.toNat
  let e : Nat := (bits / Nat.pow 2 52) % 2048
  let frac : Nat := bits % Nat.pow 2 52
  if e = 0 then ⟨bits / Nat.pow 2 63 = 1, frac, -1074, false⟩
  else ⟨bits / Nat.pow 2 63 = 1, frac + Nat.pow 2 52, (e : Int) - 1075, frac = 0 && e > 1⟩

def bitLength (n : Nat) : Nat := (Nat.toDigits 2 n).length

/-- The decimal exponent of the leading digit: the largest `e` with `10^e ≤ m · 2^q`. The
estimate from the binary exponent is off by at most one either way. -/
def leadingExponent (m : Nat) (q : Int) : Int :=
  let est := (((bitLength m : Int) - 1 + q) * 30103).fdiv 100000
  let v : Scaled := ⟨m, 0, q⟩
  if Scaled.le ⟨1, est + 1, 0⟩ v then est + 1
  else if Scaled.le ⟨1, est, 0⟩ v then est
  else est - 1

/-- The digits of `d` without trailing zeros, and how many were removed. -/
def stripZeros (d : Nat) (fuel : Nat) : Nat × Nat :=
  match fuel with
  | 0 => (d, 0)
  | fuel + 1 =>
    if d ≠ 0 ∧ d % 10 = 0 then
      let (r, n) := stripZeros (d / 10) fuel
      (r, n + 1)
    else (d, 0)

/-- The decimal of `n` significant digits nearest to the double, if one lies in its rounding
interval: the digits and the power of ten of the last digit. -/
def candidate (b : Binary) (n : Nat) : Option (Nat × Int) :=
  let k := leadingExponent b.m b.q - n + 1
  let v : Scaled := ⟨4 * b.m, 0, b.q - 2⟩
  let low : Scaled := ⟨4 * b.m - (if b.narrowBelow then 1 else 2), 0, b.q - 2⟩
  let high : Scaled := ⟨4 * b.m + 2, 0, b.q - 2⟩
  let closed := b.m % 2 == 0
  let inside (d : Nat) : Bool :=
    let c : Scaled := ⟨d, k, 0⟩
    (if closed then low.le c else low.lt c) && (if closed then c.le high else c.lt high)
  let (a, unit) := v.common ⟨1, k, 0⟩
  let down := a / unit
  let up := down + 1
  let pick : Option Nat :=
    match inside down, inside up with
    | true, true =>
      let below := a - down * unit
      let above := up * unit - a
      if below < above then some down
      else if above < below then some up
      else if down % 2 == 0 then some down else some up
    | true, false => some down
    | false, true => some up
    | false, false => none
  pick.map fun d => (d, k)

/-- The shortest decimal of a finite nonzero double: digits without trailing zeros and the
power of ten of the last one. Seventeen digits always suffice. -/
def shortest (b : Binary) : Nat × Int :=
  let found := (List.range 17).findSome? fun i => candidate b (i + 1)
  let (d, k) := found.getD (b.m, 0)
  let (d', removed) := stripZeros d 20
  (d', k + removed)

end TinySql.Decimal
