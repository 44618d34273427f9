import ContentChecksum.Toml.Number

/-!
# Dates and times in TOML

A date, a time of day, or both with or without an offset from universal time.  Only whether the text
is one of these is of interest here, so a reader answers what is left behind it.
-/

namespace ContentChecksum.Toml

/-- Read a number of exactly `count` digits that lies between two bounds. -/
def field? (count low high : Nat) (text : List Char) : Option (Nat × List Char) :=
  let digits := text.take count
  let n := numberOf 10 digits
  if digits.length = count ∧ digits.all Char.isDigit ∧ low ≤ n ∧ n ≤ high then
    some (n, text.drop count)
  else none

/-- What is left behind one given character. -/
def after? (c : Char) : List Char → Option (List Char)
  | d :: rest => if d = c then some rest else none
  | [] => none

/-- The number of days in a month, by the Gregorian calendar. -/
def daysIn (year month : Nat) : Nat :=
  if month = 2 then if year % 4 = 0 ∧ (year % 100 ≠ 0 ∨ year % 400 = 0) then 29 else 28
  else if month = 4 ∨ month = 6 ∨ month = 9 ∨ month = 11 then 30
  else 31

/-- What is left behind a date. -/
def date? (text : List Char) : Option (List Char) := do
  let (year, rest) ← field? 4 0 9999 text
  let rest ← after? '-' rest
  let (month, rest) ← field? 2 1 12 rest
  let rest ← after? '-' rest
  let (_, rest) ← field? 2 1 (daysIn year month) rest
  return rest

/-- What is left behind a fraction of a second, if there is one. -/
def skipFraction (text : List Char) : List Char :=
  match text with
  | '.' :: c :: rest => if c.isDigit then rest.dropWhile Char.isDigit else text
  | _ => text

/-- What is left behind a time of day; a minute may have a leap second. -/
def time? (text : List Char) : Option (List Char) := do
  let (_, rest) ← field? 2 0 23 text
  let rest ← after? ':' rest
  let (_, rest) ← field? 2 0 59 rest
  let rest ← after? ':' rest
  let (_, rest) ← field? 2 0 60 rest
  return skipFraction rest

/-- What is left behind an offset from universal time, if there is one. -/
def skipOffset (text : List Char) : List Char :=
  match text with
  | c :: rest =>
    if c = 'Z' ∨ c = 'z' then rest
    else if c = '+' ∨ c = '-' then
      (do
        let (_, rest) ← field? 2 0 23 rest
        let rest ← after? ':' rest
        let (_, rest) ← field? 2 0 59 rest
        return rest).getD text
    else text
  | [] => text

/-- What is left behind a date, a time, or both. -/
def moment? (text : List Char) : Option (List Char) :=
  match date? text with
  | some (c :: rest) =>
    if c = 'T' ∨ c = 't' ∨ c = ' ' then
      match time? rest with
      | some rest => some (skipOffset rest)
      | none => some (c :: rest)
    else some (c :: rest)
  | some [] => some []
  | none => time? text

end ContentChecksum.Toml
