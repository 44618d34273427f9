import ContentChecksum.Json.Quoted
import ContentChecksum.Number.Text

/-!
# The head of a JSON text

Whoever expects a string in a JSON text need not read a whole text that holds something else: a
number is known once it ends, and an array or an object at its opening bracket.  `readHead?` reads
that far, and answers `none` where the text is malformed.

Integers are kept while they fit in 64 bits.  All other numbers are binary numbers of 64 bits,
made from up to nineteen or twenty significant digits and a power of ten in one multiplication or
division; a number too large for that is refused.
-/

namespace ContentChecksum.Json

/-- What a JSON text holds, as far as it shows at its head. -/
inductive Head
  | string (text : List Char)
  | integer (n : Int)
  | number (x : Binary64)
  | boolean (b : Bool)
  | null
  | array
  | object
deriving DecidableEq, Repr

/-! ### Digits -/

/-- The value of a decimal digit. -/
def digitValue (c : Char) : Nat :=
  c.toNat - '0'.toNat

/-- The digits at the head of a text, and what follows them. -/
def takeDigits (text : List Char) : List Char × List Char :=
  text.span Char.isDigit

/-- A significand of 64 bits that takes in digits until one of them does not fit any more; `taken`
and `dropped` count those that fitted and those that came after. -/
structure Significand where
  value : Nat
  taken : Nat
  dropped : Nat
deriving DecidableEq, Repr

namespace Significand

/-- Take in one more digit. -/
def push (s : Significand) (c : Char) : Significand :=
  let value := s.value * 10 + digitValue c
  if s.dropped = 0 ∧ value < 1 <<< 64 then { s with value, taken := s.taken + 1 }
  else { s with dropped := s.dropped + 1 }

/-- Take in a run of digits, starting from a given value. -/
def ofDigits (value : Nat) (digits : List Char) : Significand :=
  digits.foldl push ⟨value, 0, 0⟩

end Significand

/-! ### Numbers with a fraction or an exponent -/

/-- The number of ten to the power `e`, for `e` up to 308. -/
def powerOfTen (e : Nat) : Magnitude :=
  (Magnitude.ofDecimal? 1 e).getD .zero

/-- Divide by ten to the power 308 until the power of ten that is left is at hand. -/
def scaleDown : Nat → Magnitude → Int → Magnitude × Int
  | 0, x, e => (x, e)
  | fuel + 1, x, e =>
    if e < -308 ∧ x.m ≠ 0 then
      scaleDown fuel ((x.div? (powerOfTen 308)).getD .zero) (e + 308)
    else (x, e)

/-- A significand times a power of ten; `none` when that is too large.  Three divisions by ten to
the power 308 take every significand to zero. -/
def scale? (significand : Nat) (e : Int) : Option Magnitude := do
  let x ← Magnitude.ofNat? significand
  let (x, e) := scaleDown 3 x e
  if x.m = 0 then some x
  else if 308 < e then none
  else if 0 ≤ e then x.mul? (powerOfTen e.toNat)
  else x.div? (powerOfTen (-e).toNat)

/-- Read the digits of an exponent, behind its letter: its value, and what follows.  A sign may
stand in front, and there must be a digit. -/
def readExponent? (text : List Char) : Option (Int × List Char) :=
  let (negative, digits) := match text with
    | '+' :: rest => (false, rest)
    | '-' :: rest => (true, rest)
    | _ => (false, text)
  match takeDigits digits with
  | ([], _) => none
  | (ds, rest) =>
    let n : Int := (ds.foldl (fun n c => n * 10 + digitValue c) 0 : Nat)
    some (if negative then -n else n, rest)

/-- The end of a number that is not an integer: its exponent if it has one, and its value. -/
def finishNumber? (negative : Bool) (significand : Nat) (e : Int) (text : List Char) :
    Option (Head × List Char) := do
  let (e, rest) ←
    match text with
    | c :: rest =>
      if c = 'e' ∨ c = 'E' then
        (readExponent? rest).map fun (n, rest) => (e + n, rest)
      else some (e, text)
    | [] => some (e, text)
  let x ← if significand = 0 then some .zero else scale? significand e
  return (.number (.finite negative x), rest)

/-- The end of a number behind its point, where there must be a digit. -/
def readFraction? (negative : Bool) (significand : Nat) (e : Int) (text : List Char) :
    Option (Head × List Char) :=
  match takeDigits text with
  | ([], _) => none
  | (ds, rest) =>
    let s := Significand.ofDigits significand ds
    finishNumber? negative s.value (e - s.taken) rest

/-- Read a number without its sign.  Nothing may follow a leading zero but a point or an exponent.
A negative zero is not an integer. -/
def readNumber? (negative : Bool) (text : List Char) : Option (Head × List Char) :=
  match takeDigits text with
  | ([], _) => none
  | ('0' :: _ :: _, _) => none
  | (ds, rest) =>
    let s := Significand.ofDigits 0 ds
    match rest with
    | '.' :: rest => readFraction? negative s.value s.dropped rest
    | _ =>
      let isInteger : Bool := s.dropped = 0 && match rest with
        | c :: _ => c ≠ 'e' && c ≠ 'E'
        | [] => true
      if isInteger && !negative then some (.integer s.value, rest)
      else if isInteger && s.value ≠ 0 && s.value ≤ 1 <<< 63 then
        some (.integer (-(s.value : Int)), rest)
      else finishNumber? negative s.value s.dropped rest

/-! ### The head -/

/-- The space between the parts of a JSON text. -/
def isBlank (c : Char) : Bool :=
  c = ' ' || c = '\n' || c = '\t' || c = '\r'

/-- The rest of a text behind a given word. -/
def afterWord? (word text : List Char) : Option (List Char) :=
  if word.isPrefixOf text then some (text.drop word.length) else none

/-- Read the head of a JSON text. -/
def readHead? (text : List Char) : Option (Head × List Char) :=
  match text.dropWhile isBlank with
  | '"' :: rest => (unquote? rest).map fun (s, rest) => (.string s, rest)
  | '[' :: rest => some (.array, rest)
  | '{' :: rest => some (.object, rest)
  | 'n' :: rest => (afterWord? "ull".toList rest).map fun rest => (.null, rest)
  | 't' :: rest => (afterWord? "rue".toList rest).map fun rest => (.boolean true, rest)
  | 'f' :: rest => (afterWord? "alse".toList rest).map fun rest => (.boolean false, rest)
  | '-' :: rest => readNumber? true rest
  | rest => readNumber? false rest

/-! ### Saying what was found -/

/-- Numbers from a hundred thousandth up to below ten to the power 16 are positional, and ties go to
the even digit. -/
def numberStyle : NumberStyle where
  tie := .even
  isPositional e := -5 ≤ e && e < 16

/-- The words for what was found. -/
def Head.describe : Head → List Char
  | string text => "string ".toList ++ quote text
  | integer n => "integer ".toList ++ '\x60' :: (toString n).toList ++ ['\x60']
  | number x => "floating point ".toList ++ '\x60' :: numberStyle.text x ++ ['\x60']
  | boolean b => "boolean ".toList ++ '\x60' :: (toString b).toList ++ ['\x60']
  | null => "null".toList
  | array => "sequence".toList
  | object => "map".toList

end ContentChecksum.Json
