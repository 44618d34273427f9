import ContentChecksum.Checksum.Json
import ContentChecksum.Command.Content
import ContentChecksum.Json.Object
import ContentChecksum.Text.Plain

/-!
# Reports

A command ends with a `Report`: what it prints, and the error it ends with, if it ends with one.
Only changed content is reported by both.
-/

namespace ContentChecksum.Command

/-- Why a command fails. -/
inductive Failure
  | settings (error : Settings.LoadError)
  | content (error : ContentError)
  /-- The content is not the one that the stored checksum was made of. -/
  | changed (stored fresh : Checksum)
deriving Repr

/-- The words for a failure. -/
def Failure.message : Failure → String
  | settings error => error.message
  | content error => error.message
  | changed stored fresh =>
    "content changed: stored " ++ stored.canonical ++ ", computed " ++ fresh.canonical

/-- What comes of a command. -/
structure Report where
  output : String
  failure : Option Failure
deriving Repr

namespace Report

/-- Print a text and be done. -/
def success (output : String) : Report :=
  ⟨output, none⟩

/-- Fail, and print nothing. -/
def failed (failure : Failure) : Report :=
  ⟨"", some failure⟩

/-! ### Describing a stored checksum -/

/-- The word for the age of a stored form. -/
def status (stored : String) : String :=
  if !Checksum.hasVersion stored then "legacy, unversioned"
  else if (Checksum.parse stored).isCurrent then "current"
  else "outdated"

/-- The description of a stored form, in two lines. -/
def lines (stored : String) : String :=
  let c := Checksum.parse stored
  "version: " ++ Text.numeral c.version ++ " (" ++ status stored ++ ")\n" ++
    "digest:  " ++ c.digest ++ "\n"

/-- The description of a stored form as a JSON object. -/
def json (stored : String) : String :=
  let c := Checksum.parse stored
  Json.object [
    ("checksum", c.toJson),
    ("version", Text.numeral c.version),
    ("digest", String.ofList (Json.quote c.digest.toList)),
    ("current", Text.truth c.isCurrent),
    ("legacy", Text.truth !Checksum.hasVersion stored)] ++ "\n"

/-! ### Comparing -/

/-- The report on a stored checksum and a fresh one. -/
def ofComparison (stored fresh : Checksum) : Report :=
  match Checksum.compare stored fresh with
  | .unchanged => success "unchanged\n"
  | .changed =>
    ⟨"changed (stored " ++ stored.canonical ++ ", computed " ++ fresh.canonical ++ ")\n",
      some (.changed stored fresh)⟩
  | .algorithmChanged old new =>
    success ("algorithm-changed (stored v" ++ Text.numeral old ++ ", current v" ++
      Text.numeral new ++ "): " ++ fresh.canonical ++ "\n")

end Report

end ContentChecksum.Command
