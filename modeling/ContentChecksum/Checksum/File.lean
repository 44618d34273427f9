import ContentChecksum.Checksum.Compute
import ContentChecksum.Host.Basic

/-!
# Checksums of files

A file is hashed as a stream.  That it cannot be opened and that it cannot be read are two different
errors.
-/

namespace ContentChecksum

variable {m : Type → Type} [Host m]

/-- Hash a file, with its line breaks unified if `unify` is set. -/
def Computed.ofFile (unify : Bool) (path : String) : m (Except ChecksumError Computed) := do
  match ← Host.openSource path with
  | .error fault => return .error (.openFile path fault)
  | .ok source => return (Computed.ofReader unify source).1

end ContentChecksum
