import ContentChecksum.Checksum.File
import ContentChecksum.Command.Basic
import ContentChecksum.Log.Journal
import ContentChecksum.Settings.Store

/-!
# Hashing the content of a command

The mode decides how content is read, and the origin from where.  Text has to be UTF-8 and is
hashed in its canonical form, whatever is settled about line breaks.  A stream is hashed byte by
byte, with its line breaks unified where both the settings and the command line let it.
-/

namespace ContentChecksum.Command

/-- Why the content of a command has no checksum. -/
inductive ContentError
  /-- It could not be read as text. -/
  | text (origin : Origin) (fault : Fault)
  /-- It could not be hashed as a stream. -/
  | stream (origin : Origin) (error : ChecksumError)
deriving DecidableEq, Repr

/-- The words for an error, each followed by the one behind it. -/
def ContentError.message : ContentError → String
  | text origin fault => "read " ++ origin.name ++ " as UTF-8 text: " ++ fault.message
  | stream .standardInput error =>
    "read stdin: " ++ error.message ++ ": " ++ error.fault.message
  | stream _ error => error.message ++ ": " ++ error.fault.message

variable {m : Type → Type} [Host m]

namespace Origin

/-- Read content as text. -/
def readText : Origin → m (Except Fault (List Char))
  | argument text => return .ok text.toList
  | file path => Host.readText path
  | standardInput => return (← Host.input).readText

/-- Hash content as a stream. -/
def hashStream (unify : Bool) : Origin → m (Except ChecksumError Computed)
  | argument text => return (Computed.ofReader unify (Source.ofBytes (Utf8.encode text.toList))).1
  | file path => Computed.ofFile unify path
  | standardInput => return (Computed.ofReader unify (← Host.input)).1

end Origin

namespace Input

/-- Hash content in a mode. -/
def hash (i : Input) (unify : Bool) : InputMode → m (Except ContentError Computed)
  | .text => do
    match ← i.origin.readText with
    | .error fault => return .error (.text i.origin fault)
    | .ok text => return .ok (.ofText (String.ofList text))
  | .stream => do
    match ← i.origin.hashStream unify with
    | .error error => return .error (.stream i.origin error)
    | .ok computed => return .ok computed

/-- What is logged of a computed checksum. -/
def event (unify : Bool) (computed : Computed) : InputMode → Log.Event
  | .text => .textHashed computed.bytes
  | .stream => .streamHashed computed.bytes unify

/-- The checksum of the content. -/
def checksum (i : Input) (settings : Settings) (journal : Log.Journal) :
    m (Except ContentError Checksum) := do
  let mode := i.mode settings
  let unify := i.unifies settings
  journal.record (.computing mode unify)
  match ← i.hash unify mode with
  | .error error => return .error error
  | .ok computed =>
    journal.record (event unify computed mode)
    return .ok computed.checksum

end Input

end ContentChecksum.Command
