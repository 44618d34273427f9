import ContentChecksum.Number.Binary64

/-!
# The shortest decimal that reads back

Every decimal close enough to a binary number is read as that number.  `Magnitude.shortest` gives,
of all these decimals, one with the fewest digits, and of several with equally few the nearest.  A
value exactly in the middle between two of them has no nearest one, and `Tie` says which is taken.
-/

namespace ContentChecksum

/-- A decimal number `digits · 10 ^ exponent`. -/
structure Decimal where
  digits : Nat
  exponent : Int
deriving DecidableEq, Repr

/-- Which of two neighbouring decimals stands for a value exactly in the middle between them. -/
inductive Tie
  /-- The larger one. -/
  | larger
  /-- The one whose last digit is even. -/
  | even
deriving DecidableEq, Repr

namespace Magnitude

/-- The numbers that are read as `x`: fractions with one denominator, and whether the two ends are
among them.  Below a power of two the next number is only half as far away. -/
structure Neighbourhood where
  low : Nat
  value : Nat
  high : Nat
  den : Nat
  closed : Bool

/-- The numbers that are read as `x`. -/
def neighbourhood (x : Magnitude) : Neighbourhood :=
  let below := if x.m = 1 <<< 52 ∧ -1074 < x.q then 1 else 2
  let q := x.q - 2
  let scale := if 0 ≤ q then 1 <<< q.toNat else 1
  { low := (4 * x.m - below) * scale
    value := 4 * x.m * scale
    high := (4 * x.m + 2) * scale
    den := if 0 ≤ q then 1 else 1 <<< (-q).toNat
    closed := x.m % 2 = 0 }

namespace Neighbourhood

/-- The same numbers, counted in units of `10 ^ e`. -/
def inUnits (n : Neighbourhood) (e : Int) : Neighbourhood :=
  if 0 ≤ e then { n with den := n.den * Nat.pow 10 e.toNat }
  else
    let scale := Nat.pow 10 (-e).toNat
    { n with low := n.low * scale, value := n.value * scale, high := n.high * scale }

/-- Whether a natural number is one of the numbers. -/
def holds (n : Neighbourhood) (a : Nat) : Bool :=
  if n.closed then n.low ≤ a * n.den && a * n.den ≤ n.high
  else n.low < a * n.den && a * n.den < n.high

/-- The natural number nearest to the value. -/
def nearest (n : Neighbourhood) (tie : Tie) : Nat :=
  let a := n.value / n.den
  let twice := 2 * (n.value % n.den)
  if twice < n.den then a
  else if n.den < twice then a + 1
  else match tie with
    | .larger => a + 1
    | .even => a + a % 2

/-- The natural number closest to the value among those that `holds`, if the value has a neighbour
there: only the two next to it need to be tried. -/
def pick? (n : Neighbourhood) (tie : Tie) : Option Nat :=
  let a := n.value / n.den
  match n.holds a, n.holds (a + 1) with
  | true, true => some (n.nearest tie)
  | true, false => some a
  | false, true => some (a + 1)
  | false, false => none

/-- The number of digits before the point, or minus the number of zeros behind it: the least `k`
with the value below `10 ^ k`. -/
def pointPlace (n : Neighbourhood) : Int :=
  -- The estimate from the binary logarithm is never too large, and at most two too small.
  let estimate : Int := ((n.value.log2 : Int) - n.den.log2 - 1) * 30103 / 100000 - 1
  let below (k : Int) : Bool :=
    if 0 ≤ k then n.value < Nat.pow 10 k.toNat * n.den
    else n.value * Nat.pow 10 (-k).toNat < n.den
  ([0, 1, 2, 3, 4].map fun i => estimate + (i : Int)).find? below |>.getD estimate

end Neighbourhood

/-- Drop zeros at the end of the digits. -/
def stripZeros : Nat → Decimal → Decimal
  | 0, d => d
  | fuel + 1, d =>
    if d.digits ≠ 0 ∧ d.digits % 10 = 0 then stripZeros fuel ⟨d.digits / 10, d.exponent + 1⟩ else d

/-- The shortest decimal that is read as `x`.  Seventeen digits are always enough. -/
def shortest (x : Magnitude) (tie : Tie) : Decimal :=
  if x.m = 0 then ⟨0, 0⟩
  else
    let n := x.neighbourhood
    let k := n.pointPlace
    let found := (List.range 17).findSome? fun i =>
      let e := k - (i + 1 : Nat)
      ((n.inUnits e).pick? tie).map fun a => stripZeros 17 ⟨a, e⟩
    found.getD ⟨0, 0⟩

end Magnitude

end ContentChecksum
