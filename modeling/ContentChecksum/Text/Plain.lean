/-!
# Numbers and truth values as text

The plain forms that messages, the log, JSON and TOML have in common.
-/

namespace ContentChecksum.Text

/-- A number in decimal. -/
def numeral (n : Nat) : String :=
  String.ofList (Nat.toDigits 10 n)

/-- The word for a truth value. -/
def truth (b : Bool) : String :=
  if b then "true" else "false"

end ContentChecksum.Text
