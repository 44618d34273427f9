/-!
# Settings

Two things can be settled for all runs: whether streams have their line breaks unified, and whether
content is taken as text or as a stream where the command line does not say.
-/

namespace ContentChecksum

/-- How content is taken. -/
inductive InputMode
  /-- As UTF-8 text, which is brought into canonical form. -/
  | text
  /-- As bytes. -/
  | stream
deriving DecidableEq, Repr

/-- The name of a mode in the settings file. -/
def InputMode.name : InputMode → String
  | text => "text"
  | stream => "stream"

/-- The mode with a given name. -/
def InputMode.ofName? (name : List Char) : Option InputMode :=
  if name = InputMode.text.name.toList then some .text
  else if name = InputMode.stream.name.toList then some .stream
  else none

/-- The settings of the program. -/
structure Settings where
  /-- Whether CR LF and CR become LF before a stream is hashed.  Text is always unified. -/
  unifyLineBreaks : Bool
  inputMode : InputMode
deriving DecidableEq, Repr

/-- What holds where nothing is settled. -/
def Settings.default : Settings :=
  ⟨true, .text⟩

end ContentChecksum
