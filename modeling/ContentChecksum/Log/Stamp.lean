/-!
# Time stamps

A moment of universal time as text, to the microsecond: `2024-02-29T07:32:00.000000Z`.  Every
stamp up to the end of the year 9999 has 27 characters.
-/

namespace ContentChecksum.Log.Stamp

/-- A number with zeros in front up to a width. -/
def padded (width n : Nat) : List Char :=
  let digits := Nat.toDigits 10 n
  List.replicate (width - digits.length) '0' ++ digits

/-- Year, month and day of a day counted from the first of January 1970.  Years are counted from
March, so that a leap day is the last of its year, in cycles of 400 years of 146097 days. -/
def date (days : Nat) : Nat × Nat × Nat :=
  let z := days + 719468
  let cycle := z / 146097
  let dayOfCycle := z % 146097
  let year := (dayOfCycle - dayOfCycle / 1460 + dayOfCycle / 36524 - dayOfCycle / 146096) / 365
  let dayOfYear := dayOfCycle - (365 * year + year / 4 - year / 100)
  let shifted := (5 * dayOfYear + 2) / 153
  let day := dayOfYear - (153 * shifted + 2) / 5 + 1
  let month := if shifted < 10 then shifted + 3 else shifted - 9
  (400 * cycle + year + (if month ≤ 2 then 1 else 0), month, day)

/-- The stamp of a moment, given in microseconds since the beginning of 1970. -/
def ofMicroseconds (t : Nat) : String :=
  let seconds := t / 1000000
  let (year, month, day) := date (seconds / 86400)
  String.ofList <|
    padded 4 year ++ '-' :: padded 2 month ++ '-' :: padded 2 day ++
    'T' :: padded 2 (seconds / 3600 % 24) ++ ':' :: padded 2 (seconds / 60 % 60) ++
    ':' :: padded 2 (seconds % 60) ++ '.' :: padded 6 (t % 1000000) ++ ['Z']

end ContentChecksum.Log.Stamp
