import ContentChecksum.Checksum.Basic
import ContentChecksum.Json.Head

/-!
# Checksums in JSON

In JSON a checksum is a string that holds its canonical form.  Reading one goes through
`Checksum.parse`, so every JSON string is a checksum; anything else is an error that says what was
found.
-/

namespace ContentChecksum.Checksum

/-- The JSON text of a checksum. -/
def toJson (c : Checksum) : String :=
  String.ofList (Json.quote c.canonical.toList)

/-- Why a JSON text is not a checksum. -/
inductive JsonError
  /-- It is not JSON. -/
  | malformed
  /-- It holds something else. -/
  | unexpected (found : Json.Head)
deriving DecidableEq, Repr

/-- The words for an error. -/
def JsonError.message : JsonError → String
  | malformed => "malformed JSON"
  | unexpected found =>
    "invalid type: " ++ String.ofList found.describe ++
      ", expected a checksum string such as \"8:<digest>\""

/-- Read a checksum from a JSON text.  Nothing but space may follow the string. -/
def ofJson (text : String) : Except JsonError Checksum :=
  match Json.readHead? text.toList with
  | some (.string s, rest) =>
    if rest.all Json.isBlank then .ok (parse (String.ofList s)) else .error .malformed
  | some (found, _) => .error (.unexpected found)
  | none => .error .malformed

end ContentChecksum.Checksum
