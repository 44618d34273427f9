/-!
# Binary numbers of 64 bits

The numbers `m · 2 ^ q` with a significand `m` below `2 ^ 53` and an exponent `q` from −1074 to 971
are the finite ones; a sign, the two infinities and not-a-number complete them.  Everything here is
exact arithmetic on natural numbers: `nearest` takes a fraction to the closest of these numbers, and
of two that are equally close to the one with an even significand.
-/

namespace ContentChecksum

/-- A significand and a binary exponent, for the number `m · 2 ^ q`. -/
structure Magnitude where
  m : Nat
  q : Int
deriving DecidableEq, Repr

namespace Magnitude

def zero : Magnitude := ⟨0, -1074⟩

/-- The value as a fraction. -/
def toFraction (x : Magnitude) : Nat × Nat :=
  if 0 ≤ x.q then (x.m <<< x.q.toNat, 1) else (x.m, 1 <<< (-x.q).toNat)

/-- Divide and round to the nearest natural number, a half to the even one. -/
def roundQuotient (num den : Nat) : Nat :=
  let n := num / den
  let twice := 2 * (num % den)
  if twice < den then n else if den < twice then n + 1 else n + n % 2

/-- The finite number nearest to `num / den`; `none` when that fraction is too large for one. -/
def nearest (num den : Nat) : Option Magnitude :=
  if num = 0 ∨ den = 0 then some zero
  else
    -- With this estimate the quotient lies strictly between 2 ^ 52 and 2 ^ 54.
    let estimate : Int := num.log2 - den.log2 - 53
    let fits (q : Int) : Bool :=
      (if 0 ≤ q then num / den <<< q.toNat else num <<< (-q).toNat / den) < 1 <<< 53
    let q := max (-1074) (if fits estimate then estimate else estimate + 1)
    let m :=
      if 0 ≤ q then roundQuotient num (den <<< q.toNat)
      else roundQuotient (num <<< (-q).toNat) den
    let x : Magnitude := if m = 1 <<< 53 then ⟨1 <<< 52, q + 1⟩ else ⟨m, q⟩
    if x.q ≤ 971 then some x else none

/-- The natural number nearest to a given one that is finite in 64 bits. -/
def ofNat? (n : Nat) : Option Magnitude :=
  nearest n 1

/-- The rounded product. -/
def mul? (x y : Magnitude) : Option Magnitude :=
  let (a, b) := x.toFraction
  let (c, d) := y.toFraction
  nearest (a * c) (b * d)

/-- The rounded quotient. -/
def div? (x y : Magnitude) : Option Magnitude :=
  let (a, b) := x.toFraction
  let (c, d) := y.toFraction
  nearest (a * d) (b * c)

/-- The number nearest to `n · 10 ^ e`. -/
def ofDecimal? (n : Nat) (e : Int) : Option Magnitude :=
  if n = 0 then some zero
  else if 400 < e then none
  else if e < -400 - (n.log2 : Int) then some zero
  else if 0 ≤ e then nearest (n * Nat.pow 10 e.toNat) 1
  else nearest n (Nat.pow 10 (-e).toNat)

end Magnitude

/-- A binary number of 64 bits. -/
inductive Binary64
  | notANumber
  | infinite (negative : Bool)
  | finite (negative : Bool) (magnitude : Magnitude)
deriving DecidableEq, Repr

end ContentChecksum
