import ContentChecksum.Settings.Basic
import ContentChecksum.Text.Plain
import ContentChecksum.Text.Quoted
import ContentChecksum.Number.Text
import ContentChecksum.Toml.Document

/-!
# Settings as TOML

`write` gives the text of a settings file, and `read` takes the settings from one.  A key that is
missing keeps its default and an unknown key is ignored.  The keys are looked at in the order of the
document, so the first unfit value is the one that is reported.
-/

namespace ContentChecksum.Settings

/-! ### Writing -/

/-- The key of `unifyLineBreaks`. -/
def lineBreaksKey : String := "standardize_line_endings"

/-- The key of `inputMode`. -/
def modeKey : String := "input_mode"

/-- The text of a settings file. -/
def write (s : Settings) : String :=
  lineBreaksKey ++ " = " ++ Text.truth s.unifyLineBreaks ++ "\n" ++
    modeKey ++ " = \"" ++ s.inputMode.name ++ "\"\n"

/-! ### Reading -/

/-- Why a text holds no settings. -/
inductive TomlError
  /-- It is not TOML, or some key is given twice. -/
  | malformed
  /-- A truth value was expected and something else found. -/
  | notBoolean (found : Toml.Node)
  /-- The input mode has a name that no mode has. -/
  | unknownMode (name : List Char)
  /-- The input mode is not given by name. -/
  | unfitMode
deriving Repr

/-- All numbers are positional, and ties go to the larger decimal. -/
def numberStyle : NumberStyle where
  tie := .larger
  isPositional _ := true

/-- The words for what was found. -/
def describe : Toml.Node → List Char
  | .string text => "string ".toList ++ Text.quoted text
  | .integer n => "integer ".toList ++ '\x60' :: (toString n).toList ++ ['\x60']
  | .float x => "floating point ".toList ++ '\x60' :: numberStyle.text x ++ ['\x60']
  | .boolean b => "boolean ".toList ++ '\x60' :: (toString b).toList ++ ['\x60']
  | .moment | .inline _ _ | .table _ _ => "map".toList
  | .array _ | .tables _ => "sequence".toList

/-- The words for an error. -/
def TomlError.message : TomlError → String
  | malformed => "malformed TOML"
  | notBoolean found => "invalid type: " ++ String.ofList (describe found) ++ ", expected a boolean"
  | unknownMode name =>
    "unknown variant \x60" ++ String.ofList name ++ "\x60, expected \x60text\x60 or \x60stream\x60"
  | unfitMode => "wanted the name of an input mode"

/-- Whether a node holds nothing: an array or a table without entries. -/
def isHollow : Toml.Node → Bool
  | .array nodes => nodes.isEmpty
  | .inline _ entries | .table _ entries => entries.isEmpty
  | .tables elements => elements.isEmpty
  | _ => false

/-- The mode that a table names: by its only key, whose value is hollow. -/
def modeOfEntries : List (Toml.Key × Toml.Node) → Except TomlError InputMode
  | [(name, node)] =>
    match InputMode.ofName? name with
    | none => .error (.unknownMode name)
    | some mode => if isHollow node then .ok mode else .error .unfitMode
  | _ => .error .unfitMode

/-- The mode that a node names. -/
def modeOfNode : Toml.Node → Except TomlError InputMode
  | .string name =>
    match InputMode.ofName? name with
    | none => .error (.unknownMode name)
    | some mode => .ok mode
  | .inline _ entries | .table _ entries => modeOfEntries entries
  | _ => .error .unfitMode

/-- Take one entry of the document into the settings. -/
def take (s : Settings) (entry : Toml.Key × Toml.Node) : Except TomlError Settings :=
  if entry.1 = lineBreaksKey.toList then
    match entry.2 with
    | .boolean b => .ok { s with unifyLineBreaks := b }
    | found => .error (.notBoolean found)
  else if entry.1 = modeKey.toList then
    (modeOfNode entry.2).map fun mode => { s with inputMode := mode }
  else .ok s

/-- The settings that a text holds. -/
def read (text : String) : Except TomlError Settings :=
  match Toml.document? text.toList with
  | none => .error .malformed
  | some entries => entries.foldlM take .default

end ContentChecksum.Settings
