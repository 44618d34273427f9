import ContentChecksum.Files.Path
import ContentChecksum.Reader.Source

/-!
# What the program asks of its surroundings

A `Host` answers questions about files, hands out the standard input, takes output and knows the
time.  The program is written against this class, so that it runs on a real system as well as on a
simulated one, where it can be reasoned about.

`createDirectories` is built from the class: it makes a directory together with all that are missing
above it.
-/

namespace ContentChecksum

/-- The variables of the environment that the program looks at. -/
structure Environment where
  /-- The home directory. -/
  home : Option String
  /-- Where settings are kept, if not at the usual place below the home directory. -/
  configHome : Option String
  /-- Where logs are kept, if not at the usual place below the home directory. -/
  stateHome : Option String
  /-- Which events are logged. -/
  logFilter : Option String
deriving Repr

namespace Environment

/-- Settings and logs are kept in directories of this name. -/
def directoryName : String := "changesum"

/-- A base directory: the one that is set, if its path is absolute, else the usual one. -/
def baseDirectory (set : Option String) (usual : String) : String :=
  match set with
  | some path => if Path.isAbsolute path then path else usual
  | none => usual

/-- The directory of the settings; there is none without a home. -/
def configDirectory? (env : Environment) : Option String :=
  env.home.map fun home =>
    Path.join (baseDirectory env.configHome (Path.join home ".config")) directoryName

/-- The directory of the log; there is none without a home. -/
def stateDirectory? (env : Environment) : Option String :=
  env.home.map fun home =>
    Path.join (baseDirectory env.stateHome (Path.join home ".local/state")) directoryName

end Environment

/-- The surroundings of a program. -/
class Host (m : Type → Type) extends Monad m where
  /-- Make one directory. -/
  makeDirectory : String → m (Except Fault Unit)
  isDirectory : String → m Bool
  /-- Whether anything lies at the end of a path. -/
  has : String → m Bool
  /-- Open a file for reading. -/
  openSource : String → m (Except Fault Source)
  /-- Add bytes at the end of a file, which is made if it does not exist. -/
  append : String → List UInt8 → m (Except Fault Unit)
  /-- Give a file new bytes; it is made if it does not exist. -/
  write : String → List UInt8 → m (Except Fault Unit)
  /-- The standard input. -/
  input : m Source
  /-- Write to the standard output. -/
  print : String → m Unit
  /-- Write to the standard error. -/
  printError : String → m Unit
  /-- Microseconds since the beginning of 1970, in universal time. -/
  now : m Nat

namespace Host

variable {m : Type → Type} [Host m]

/-- Make the directory that the parts of a path lead to, last part first, and those above it.  The
path is asked for with all its parts, so its length counts as it is written. -/
def createUpwards : List String → m (Except Fault Unit)
  | [] => pure (.ok ())
  | part :: above => do
    if Path.isBlank part then createUpwards above
    else
      let path := Path.ofParts (part :: above).reverse
      match ← makeDirectory path with
      | .ok () => return .ok ()
      | .error fault =>
        if fault.kind = .notFound then
          match ← createUpwards above with
          | .error fault => return .error fault
          | .ok () =>
            match ← makeDirectory path with
            | .ok () => return .ok ()
            | .error fault => return if ← isDirectory path then .ok () else .error fault
        else return if ← isDirectory path then .ok () else .error fault

/-- Make a directory and those above it that are missing.  It may exist already. -/
def createDirectories (path : String) : m (Except Fault Unit) :=
  createUpwards (Path.split path).reverse

end Host

end ContentChecksum
