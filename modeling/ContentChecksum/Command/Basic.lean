import ContentChecksum.Settings.Basic

/-!
# Commands

What the program can be asked to do.  A command that hashes content has an `Input`, which says where
the content comes from and how it is to be taken.
-/

namespace ContentChecksum

namespace Command

/-- Where content comes from. -/
inductive Origin
  /-- A text on the command line. -/
  | argument (text : String)
  | file (path : String)
  | standardInput
deriving DecidableEq, Repr

/-- What content is called in messages. -/
def Origin.name : Origin → String
  | argument _ => "TEXT"
  | file path => path
  | standardInput => "stdin"

/-- Which content is hashed, and how. -/
structure Input where
  origin : Origin
  /-- The mode that is asked for. -/
  requested : Option InputMode
  /-- Whether the line breaks of a stream stay as they are. -/
  rawLineBreaks : Bool
deriving DecidableEq, Repr

namespace Input

/-- The mode in which content is taken: the one that is asked for, else text for a text on the
command line, else the one that is settled. -/
def mode (i : Input) (settings : Settings) : InputMode :=
  match i.requested, i.origin with
  | some mode, _ => mode
  | none, .argument _ => .text
  | none, _ => settings.inputMode

/-- Whether the line breaks of a stream are unified. -/
def unifies (i : Input) (settings : Settings) : Bool :=
  settings.unifyLineBreaks && !i.rawLineBreaks

end Input

end Command

/-- What the program is asked to do. -/
inductive Command
  /-- Print the checksum of content. -/
  | compute (input : Command.Input)
  /-- Describe a stored checksum. -/
  | parse (stored : String) (json : Bool)
  /-- Compare a stored checksum with that of content. -/
  | verify (stored : String) (input : Command.Input)
  /-- Print the version of the algorithm. -/
  | version
deriving DecidableEq, Repr

end ContentChecksum
