import ContentChecksum.Number.Shortest

/-!
# Numbers as text

A number is written with the shortest digits that are read as it, in one of two forms.  The
positional form always has a point and at least one digit on either side of it; the scientific form
has one digit before the point and always the sign of the exponent.  A `NumberStyle` says which
numbers are positional.
-/

namespace ContentChecksum

namespace Decimal

/-- The exponent of the first digit. -/
def order (d : Decimal) : Int :=
  (Nat.toDigits 10 d.digits).length + d.exponent - 1

/-- The digits with a point in their midst, and zeros where digits are missing. -/
def positional (d : Decimal) : List Char :=
  let digits := Nat.toDigits 10 d.digits
  if 0 ≤ d.exponent then digits ++ List.replicate d.exponent.toNat '0' ++ ['.', '0']
  else
    let places := (-d.exponent).toNat
    if digits.length ≤ places then
      ['0', '.'] ++ List.replicate (places - digits.length) '0' ++ digits
    else
      digits.take (digits.length - places) ++ '.' :: digits.drop (digits.length - places)

/-- The digits with a point behind the first, if others follow, and the exponent of the first. -/
def scientific (d : Decimal) : List Char :=
  let significand := match Nat.toDigits 10 d.digits with
    | first :: second :: rest => first :: '.' :: second :: rest
    | digits => digits
  let sign := if d.order < 0 then '-' else '+'
  significand ++ 'e' :: sign :: Nat.toDigits 10 d.order.natAbs

end Decimal

/-- How numbers are written. -/
structure NumberStyle where
  tie : Tie
  /-- Whether a number is written in positional form, given the exponent of its first digit. -/
  isPositional : Int → Bool

namespace NumberStyle

/-- The text of a number without its sign. -/
def magnitude (style : NumberStyle) (x : Magnitude) : List Char :=
  let d := x.shortest style.tie
  if style.isPositional d.order then d.positional else d.scientific

/-- The text of a number, with a sign also before a negative zero. -/
def text (style : NumberStyle) : Binary64 → List Char
  | .notANumber => "NaN".toList
  | .infinite negative => (if negative then ['-'] else []) ++ "inf".toList
  | .finite negative x => (if negative then ['-'] else []) ++ style.magnitude x

end NumberStyle

end ContentChecksum
