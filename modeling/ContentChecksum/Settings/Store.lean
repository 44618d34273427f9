import ContentChecksum.Files.Fault
import ContentChecksum.Host.Basic
import ContentChecksum.Settings.Toml
import ContentChecksum.Text.Utf8

/-!
# The settings file

Settings are kept in one file below the home directory.  Loading them makes the directory, and where
there is no file it writes one with the default settings; a file that exists is only ever read.
-/

namespace ContentChecksum

/-- All bytes of a source as text. -/
def Source.readText (s : Source) : Except Fault (List Char) :=
  let d := Reader.readToEnd s
  match d.fault with
  | some fault => .error fault
  | none =>
    match Utf8.decode? d.value with
    | some text => .ok text
    | none => .error .notUtf8

/-- Read a whole file as text. -/
def Host.readText {m : Type → Type} [Host m] (path : String) : m (Except Fault (List Char)) := do
  match ← Host.openSource path with
  | .error fault => return .error fault
  | .ok source => return source.readText

namespace Settings

/-- Why settings could not be loaded. -/
inductive LoadError
  /-- There is no home directory. -/
  | noHome
  | file (fault : Fault)
  | text (error : TomlError)
deriving Repr

/-- The words for an error. -/
def LoadError.message : LoadError → String
  | noHome => "$HOME must be set"
  | file fault => fault.message
  | text error => "TOML parse error: " ++ error.message

/-- Settings as they were loaded. -/
structure Loaded where
  settings : Settings
  path : String
  /-- Whether the file has just been made. -/
  created : Bool
deriving Repr

/-- The name of the settings file. -/
def fileName : String := "config.toml"

variable {m : Type → Type} [Host m]

/-- The path of the settings file.  Its directory is made if it is missing. -/
def locate (env : Environment) : m (Except LoadError String) := do
  match env.configDirectory? with
  | none => return .error .noHome
  | some directory =>
    match ← Host.createDirectories directory with
    | .error fault => return .error (.file fault)
    | .ok () => return .ok (Path.join directory fileName)

/-- Read the settings from a file that exists. -/
def readFrom (path : String) : m (Except LoadError Loaded) := do
  match ← Host.readText path with
  | .error fault => return .error (.file fault)
  | .ok text =>
    match read (String.ofList text) with
    | .error error => return .error (.text error)
    | .ok settings => return .ok ⟨settings, path, false⟩

/-- Write the default settings to a file. -/
def writeDefault (path : String) : m (Except LoadError Loaded) := do
  match ← Host.write path (Utf8.encode (write .default).toList) with
  | .error fault => return .error (.file fault)
  | .ok () => return .ok ⟨.default, path, true⟩

/-- Make the settings file.  Its directory is made once more, in case it has gone since `locate`. -/
def create (path : String) : m (Except LoadError Loaded) := do
  match ← Host.createDirectories (Path.parent path) with
  | .error fault => return .error (.file fault)
  | .ok () => writeDefault path

/-- Load the settings, making the file from the default ones where there is none. -/
def load (env : Environment) : m (Except LoadError Loaded) := do
  match ← locate env with
  | .error error => return .error error
  | .ok path => if ← Host.has path then readFrom path else create path

end Settings

end ContentChecksum
