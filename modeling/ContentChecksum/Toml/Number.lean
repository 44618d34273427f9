import ContentChecksum.Number.Binary64
import ContentChecksum.Toml.Text

/-!
# Numbers in TOML

Digits may be grouped with single underscores.  Integers fit in 64 bits with sign, and may be
written to base 16, 8 or 2 without one.  A number with a fraction or an exponent is the nearest
binary number of 64 bits; one that is too large above zero is refused.
-/

namespace ContentChecksum.Toml

/-- Read digits with single underscores between them; what has been read is kept back to front.  An
underscore that no digit follows is refused. -/
def groupedOnto (isDigit : Char → Bool) (seen : List Char) :
    List Char → Option (List Char × List Char)
  | '_' :: c :: rest => if isDigit c then groupedOnto isDigit (c :: seen) rest else none
  | '_' :: [] => none
  | c :: rest =>
    if isDigit c then groupedOnto isDigit (c :: seen) rest else some (seen.reverse, c :: rest)
  | [] => some (seen.reverse, [])

/-- Read a group of digits, of which there must be one at the start. -/
def digits? (isDigit : Char → Bool) : List Char → Option (List Char × List Char)
  | c :: rest => if isDigit c then groupedOnto isDigit [c] rest else none
  | [] => none

/-- The number that digits make in a base. -/
def numberOf (base : Nat) (digits : List Char) : Nat :=
  digits.foldl (fun n c => n * base + (Hex.value? c).getD 0) 0

/-- Read a sign, if there is one: whether it is a minus. -/
def readSign : List Char → Bool × List Char
  | '+' :: rest => (false, rest)
  | '-' :: rest => (true, rest)
  | text => (false, text)

/-- Read the digits of a decimal integer; nothing follows a leading zero. -/
def decimal? : List Char → Option (List Char × List Char)
  | '0' :: rest => some (['0'], rest)
  | text => digits? Char.isDigit text

/-- An integer of 64 bits with sign. -/
def integer? (negative : Bool) (n : Nat) : Option Node :=
  if negative then if n ≤ 1 <<< 63 then some (.integer (-(n : Int))) else none
  else if n < 1 <<< 63 then some (.integer n) else none

/-- The number nearest to `n · 10 ^ e`.  Too large below zero is minus infinity. -/
def float? (negative : Bool) (n : Nat) (e : Int) : Option Node :=
  match Magnitude.ofDecimal? n e with
  | some x => some (.float (.finite negative x))
  | none => if negative then some (.float (.infinite true)) else none

/-- Read the exponent of a number, if there is one. -/
def exponent? : List Char → Option (Option Int × List Char)
  | c :: rest =>
    if c = 'e' ∨ c = 'E' then do
      let (negative, rest) := readSign rest
      let (ds, rest) ← digits? Char.isDigit rest
      let n : Int := numberOf 10 ds
      return (some (if negative then -n else n), rest)
    else some (none, c :: rest)
  | [] => some (none, [])

/-- Read an integer to base 16, 8 or 2, behind its two leading characters. -/
def based? (base : Nat) (isDigit : Char → Bool) (text : List Char) : Option (Node × List Char) := do
  let (ds, rest) ← digits? isDigit text
  let node ← integer? false (numberOf base ds)
  return (node, rest)

/-- Read a number behind its sign. -/
def unsigned? (negative : Bool) (text : List Char) : Option (Node × List Char) :=
  match text with
  | 'i' :: 'n' :: 'f' :: rest => some (.float (.infinite negative), rest)
  | 'n' :: 'a' :: 'n' :: rest => some (.float .notANumber, rest)
  | _ => do
    let (whole, rest) ← decimal? text
    match rest with
    | '.' :: rest => do
      let (fraction, rest) ← digits? Char.isDigit rest
      let (e, rest) ← exponent? rest
      let node ← float? negative (numberOf 10 (whole ++ fraction)) (e.getD 0 - fraction.length)
      return (node, rest)
    | _ => do
      match ← exponent? rest with
      | (some e, rest) =>
        let node ← float? negative (numberOf 10 whole) e
        return (node, rest)
      | (none, rest) =>
        let node ← integer? negative (numberOf 10 whole)
        return (node, rest)

/-- Read a number. -/
def number? (text : List Char) : Option (Node × List Char) :=
  match text with
  | '0' :: 'x' :: rest => based? 16 (fun c => (Hex.value? c).isSome) rest
  | '0' :: 'o' :: rest => based? 8 (fun c => '0' ≤ c && c ≤ '7') rest
  | '0' :: 'b' :: rest => based? 2 (fun c => c = '0' || c = '1') rest
  | _ =>
    let (negative, rest) := readSign text
    unsigned? negative rest

end ContentChecksum.Toml
