import ContentChecksum.Json.Quoted

/-!
# Objects in JSON

An object is written with a line for each of its members, set in by two spaces.
-/

namespace ContentChecksum.Json

/-- One member: its key, and its value as it is written. -/
def member (key value : String) : String :=
  "  " ++ String.ofList (quote key.toList) ++ ": " ++ value

/-- An object with the given members. -/
def object (members : List (String × String)) : String :=
  "\x7b\n" ++ ",\n".intercalate (members.map fun (key, value) => member key value) ++ "\n\x7d"

end ContentChecksum.Json
