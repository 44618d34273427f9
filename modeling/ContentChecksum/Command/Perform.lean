import ContentChecksum.Command.Report

/-!
# Performing commands

`perform` carries a command out under settings that have been loaded, and gives the report on it.
What it does on the way goes to the journal.
-/

namespace ContentChecksum

variable {m : Type → Type} [Host m]

/-- Read a stored checksum.  The journal is told of one that has no version. -/
def Log.Journal.readStored (journal : Log.Journal) (stored : String) : m Checksum := do
  if !Checksum.hasVersion stored then journal.record (.unversioned stored)
  return .parse stored

namespace Command

/-- Compare a stored checksum with a fresh one.  The journal is told if they come from different
algorithms. -/
def check (journal : Log.Journal) (stored fresh : Checksum) : m Report := do
  if stored.version ≠ fresh.version then journal.record (.outdated stored fresh)
  return .ofComparison stored fresh

/-- Carry a command out. -/
def perform (settings : Settings) (journal : Log.Journal) : Command → m Report
  | compute input => do
    match ← input.checksum settings journal with
    | .error error => return .failed (.content error)
    | .ok fresh => return .success (fresh.canonical ++ "\n")
  | parse stored json => do
    discard (journal.readStored stored)
    return .success (if json then Report.json stored else Report.lines stored)
  | verify stored input => do
    let stored ← journal.readStored stored
    match ← input.checksum settings journal with
    | .error error => return .failed (.content error)
    | .ok fresh => check journal stored fresh
  | version => return .success (Text.numeral Checksum.currentVersion ++ "\n")

end Command

end ContentChecksum
