import ContentChecksum.Checksum.Basic
import ContentChecksum.Log.Level
import ContentChecksum.Settings.Basic
import ContentChecksum.Text.Plain
import ContentChecksum.Text.Quoted

/-!
# Events

All that the program has to say about its own working.  An event has a level, a target that names
the part it comes from, and a text: a message with named values behind it.  `line` is the form in
which it stands in the log.
-/

namespace ContentChecksum.Log

/-- Something worth logging. -/
inductive Event
  /-- The log has been opened. -/
  | opened (path : String)
  /-- There were no settings, and the default ones have been written. -/
  | settingsCreated (path : String)
  | settingsLoaded (settings : Settings)
  /-- A checksum is about to be computed. -/
  | computing (mode : InputMode) (unify : Bool)
  | textHashed (bytes : UInt64)
  | streamHashed (bytes : UInt64) (unify : Bool)
  /-- A stored form without a version is read. -/
  | unversioned (stored : String)
  /-- A stored checksum comes from another algorithm. -/
  | outdated (stored fresh : Checksum)
deriving Repr

/-- The word for an input mode. -/
def modeWord : InputMode → String
  | .text => "Text"
  | .stream => "Stream"

/-- Write characters that could steer a terminal by their numbers. -/
def shield (text : String) : String :=
  String.ofList <| text.toList.flatMap fun c =>
    let n := c.toNat
    if n = 0x07 ∨ n = 0x08 ∨ n = 0x0C ∨ n = 0x1B ∨ n = 0x7F then
      '\\' :: 'x' :: (if n < 16 then ['0'] else []) ++ Nat.toDigits 16 n
    else if 0x80 ≤ n ∧ n < 0xA0 then ['\\', 'u', '\x7b'] ++ Nat.toDigits 16 n ++ ['\x7d']
    else [c]

namespace Event

def level : Event → Level
  | opened _ | settingsCreated _ | outdated _ _ => .info
  | _ => .debug

/-- The part of the program that an event comes from. -/
def target : Event → String
  | opened _ => "changesum_core::logging"
  | settingsCreated _ => "changesum_core::config"
  | settingsLoaded _ => "changesum::cli"
  | computing _ _ => "changesum::cli::commands::input"
  | textHashed _ | streamHashed _ _ | unversioned _ => "changesum_core::checksum"
  | outdated _ _ => "changesum::cli::commands::verify"

/-- The names of the values of an event, of which the message is one. -/
def values : Event → List String
  | opened _ | settingsCreated _ | settingsLoaded _ => ["message"]
  | computing _ _ => ["message", "mode", "standardize"]
  | textHashed _ => ["message", "version", "bytes"]
  | streamHashed _ _ => ["message", "version", "bytes", "standardize_line_endings"]
  | unversioned _ => ["message", "stored"]
  | outdated _ _ => ["message", "stored", "fresh"]

/-- The message of an event, and its named values. -/
def text : Event → String
  | opened path => shield ("changesum logging initialized at " ++ path)
  | settingsCreated path => shield ("created default config at " ++ path)
  | settingsLoaded s =>
    "loaded config: ChangesumConfig \x7b standardize_line_endings: " ++
      Text.truth s.unifyLineBreaks ++ ", input_mode: " ++ modeWord s.inputMode ++ " \x7d"
  | computing mode unify =>
    "computing checksum mode=" ++ modeWord mode ++ " standardize=" ++ Text.truth unify
  | textHashed bytes =>
    "computed text checksum version=" ++ Text.numeral Checksum.currentVersion ++
      " bytes=" ++ Text.numeral bytes.toNat
  | streamHashed bytes unify =>
    "computed stream checksum version=" ++ Text.numeral Checksum.currentVersion ++
      " bytes=" ++ Text.numeral bytes.toNat ++ " standardize_line_endings=" ++ Text.truth unify
  | unversioned stored =>
    "no version prefix, reading as legacy checksum stored=" ++
      String.ofList (Text.quoted stored.toList)
  | outdated stored fresh =>
    "stored checksum predates current algorithm stored=" ++ stored.canonical ++
      " fresh=" ++ fresh.canonical

/-- The line of an event in the log, behind its time stamp. -/
def line (stamp : String) (e : Event) : String :=
  stamp ++ " " ++ e.level.column ++ " " ++ e.target ++ ": " ++ e.text ++ "\n"

end Event

end ContentChecksum.Log
