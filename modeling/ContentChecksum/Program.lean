import ContentChecksum.Command.Help
import ContentChecksum.Command.Perform

/-!
# The program

A run begins its journal, reads the command line, loads the settings, carries out the command and
reports.  Settings are only loaded, and made where they are missing, once the command line has been
understood.
-/

namespace ContentChecksum

/-- How a run ends. -/
inductive Status
  | success
  | failure
  /-- The command line was not understood. -/
  | misuse
deriving DecidableEq, Repr

/-- The number that a system is told at the end of a run. -/
def Status.code : Status → UInt32
  | success => 0
  | failure => 1
  | misuse => 2

variable {m : Type → Type} [Host m]

namespace Command

/-- The line on the standard error for a failure. -/
def Failure.line (failure : Failure) : String :=
  "changesum error: " ++ failure.message ++ "\n"

/-- Print a report. -/
def Report.deliver (r : Report) : m Status := do
  Host.print r.output
  match r.failure with
  | none => return .success
  | some failure =>
    Host.printError failure.line
    return .failure

/-- Load the settings and carry a command out. -/
def execute (env : Environment) (journal : Log.Journal) (command : Command) : m Report := do
  match ← Settings.load env with
  | .error error => return .failed (.settings error)
  | .ok loaded =>
    if loaded.created then journal.record (.settingsCreated loaded.path)
    journal.record (.settingsLoaded loaded.settings)
    command.perform loaded.settings journal

end Command

/-- Answer a request. -/
def Command.Request.answer (env : Environment) (journal : Log.Journal) :
    Command.Request → m Status
  | run command => do (← command.execute env journal).deliver
  | help topic => do
    Host.print topic.text
    return .success

/-- Run the program on a command line. -/
def run (env : Environment) (line : List String) : m Status := do
  let journal ← Log.Journal.start env
  match Command.Request.ofLine line with
  | .ok request => request.answer env journal
  | .error error =>
    Host.printError error.text
    return .misuse

end ContentChecksum
