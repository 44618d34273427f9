import ContentChecksum.Unicode.Visible

/-!
# Texts quoted for a reader

In messages and in the log a text stands between double quotes.  Quotes and backslashes are escaped
so that its end is plain to see; tab, line feed, carriage return and the null character have escapes
of their own, and every other character that does not show by itself is written by its number.
-/

namespace ContentChecksum.Text

/-- The written form of one character. -/
def quoteChar (c : Char) : List Char :=
  if c = '"' ∨ c = '\\' then ['\\', c]
  else if c = '\n' then ['\\', 'n']
  else if c = '\r' then ['\\', 'r']
  else if c = '\t' then ['\\', 't']
  else if c.toNat = 0 then ['\\', '0']
  else if Unicode.isVisible c then [c]
  else ['\\', 'u', '\x7b'] ++ Nat.toDigits 16 c.toNat ++ ['\x7d']

/-- A text between quotes. -/
def quoted (text : List Char) : List Char :=
  '"' :: text.flatMap quoteChar ++ ['"']

end ContentChecksum.Text
