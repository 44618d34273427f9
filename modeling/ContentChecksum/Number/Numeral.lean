/-!
# Which texts are numbers

A number is written in digits, with or without a point and an exponent, or is one of the words for
infinity and for what is no number.  A sign may stand in front.
-/

namespace ContentChecksum.Numeral

/-- What is left behind the sign of a number, if it has one. -/
def unsigned : List Char → List Char
  | '+' :: rest => rest
  | '-' :: rest => rest
  | text => text

/-- Whether a text is made of digits and has at least one. -/
def isWhole (text : List Char) : Bool :=
  text ≠ [] && text.all Char.isDigit

/-- Whether a text is nothing, or the exponent of a number with the letter in front of it. -/
def isExponent : List Char → Bool
  | [] => true
  | c :: rest => (c = 'e' || c = 'E') && isWhole (unsigned rest)

/-- Whether a text is a number in digits without a sign: digits, of which some may stand behind a
point, and then an exponent. -/
def isPositional (text : List Char) : Bool :=
  let (whole, rest) := text.span Char.isDigit
  let (places, rest) := match rest with
    | '.' :: rest => rest.span Char.isDigit
    | _ => ([], rest)
  isWhole (whole ++ places) && isExponent rest

/-- The words that are numbers, in any case. -/
def words : List String :=
  ["inf", "infinity", "nan"]

/-- Whether a text is a number. -/
def isNumber (text : List Char) : Bool :=
  let magnitude := unsigned text
  words.any (·.toList = magnitude.map Char.toLower) || isPositional magnitude

end ContentChecksum.Numeral
