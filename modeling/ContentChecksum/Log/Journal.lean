import ContentChecksum.Host.Basic
import ContentChecksum.Log.Event
import ContentChecksum.Log.Filter
import ContentChecksum.Log.Stamp
import ContentChecksum.Text.Utf8

/-!
# The journal

A journal takes the events that its filter admits and writes them to the log file, or to the
standard error if the file cannot be opened.  Keeping a journal never stops the program.
-/

namespace ContentChecksum.Log

/-- Where a journal is written. -/
inductive Sink
  | file (path : String)
  | standardError
deriving DecidableEq, Repr

/-- A journal under way. -/
structure Journal where
  sink : Sink
  filter : Filter
deriving Repr

namespace Journal

/-- The name of the log file. -/
def fileName : String := "changesum.log"

variable {m : Type → Type} [Host m]

/-- Log an event, if the filter admits it. -/
def record (j : Journal) (e : Event) : m Unit := do
  if j.filter.admits e.level e.target e.values then
    let line := e.line (Stamp.ofMicroseconds (← Host.now))
    match j.sink with
    | .file path => discard (Host.append path (Utf8.encode line.toList))
    | .standardError => Host.printError line

/-- Open the log file: the path at which it can be written, if it can. -/
def openFile? (env : Environment) : m (Option String) := do
  match env.stateDirectory? with
  | none => return none
  | some directory =>
    match ← Host.createDirectories directory with
    | .error _ => return none
    | .ok () =>
      let path := Path.join directory fileName
      match ← Host.append path [] with
      | .error _ => return none
      | .ok () => return some path

/-- Begin a journal. -/
def start (env : Environment) : m Journal := do
  let filter := Filter.ofVariable env.logFilter
  match ← openFile? env with
  | none => return ⟨.standardError, filter⟩
  | some path =>
    let journal : Journal := ⟨.file path, filter⟩
    journal.record (.opened path)
    return journal

end Journal

end ContentChecksum.Log
