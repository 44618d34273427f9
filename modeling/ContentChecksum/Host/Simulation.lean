import ContentChecksum.Files.Tree
import ContentChecksum.Host.Basic

/-!
# A simulated host

A `World` holds all that a program can see and change: a tree of files with a current directory,
the standard input, a clock that stands still, and what has been written so far.  `Simulation` is
the host that lives in such a world.
-/

namespace ContentChecksum

/-- The state of a simulated host. -/
structure World where
  files : FileTree
  here : Location
  standardInput : List UInt8
  /-- Microseconds since the beginning of 1970. -/
  clock : Nat
  output : String
  errors : String
deriving Repr

/-- Programs that run in a world. -/
abbrev Simulation := StateM World

namespace Simulation

/-- Change the tree of files, or report what keeps it from being changed. -/
def change (operation : FileTree → Location → Except Fault FileTree) :
    Simulation (Except Fault Unit) := fun w =>
  match operation w.files w.here with
  | .ok files => (.ok (), { w with files })
  | .error fault => (.error fault, w)

instance : Host Simulation where
  makeDirectory path := change fun files here => files.makeDirectory here path
  isDirectory path := fun w => (w.files.isDirectory w.here path, w)
  has path := fun w => (w.files.has w.here path, w)
  openSource path := fun w => (w.files.openSource w.here path, w)
  append path bytes := change fun files here => files.append here path bytes
  write path bytes := change fun files here => files.write here path bytes
  input := fun w => (.ofBytes w.standardInput, { w with standardInput := [] })
  print text := fun w => ((), { w with output := w.output ++ text })
  printError text := fun w => ((), { w with errors := w.errors ++ text })
  now := fun w => (w.clock, w)

end Simulation

end ContentChecksum
