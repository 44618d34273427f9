/-!
# Checksums

A checksum is a digest together with the version of the algorithm that made it.  Its canonical form
is `<version>:<digest>`; this is what gets stored beside the content.  Reading a stored form never
fails: one that does not begin with a version is taken whole as a digest of the time before there
were versions.

Two checksums are the same when their canonical forms are, and comparing a stored checksum with a
fresh one tells "another algorithm" apart from "other content".
-/

namespace ContentChecksum

/-- A digest and the version of the algorithm that made it. -/
structure Checksum where
  version : Nat
  digest : String
deriving Repr

namespace Checksum

/-- The version of every freshly computed checksum.  It changes with every change of the text form
or of the hash function. -/
def currentVersion : Nat := 8

/-- The version of stored digests that carry none. -/
def legacyVersion : Nat := 1

/-- What stands between version and digest. -/
def delimiter : Char := ':'

/-- Whether a checksum was made by the current algorithm. -/
def isCurrent (c : Checksum) : Bool :=
  c.version = currentVersion

/-! ### The canonical form -/

/-- The form in which a checksum is stored. -/
def canonical (c : Checksum) : String :=
  String.ofList (Nat.toDigits 10 c.version ++ delimiter :: c.digest.toList)

instance : ToString Checksum := ⟨canonical⟩

instance : BEq Checksum := ⟨fun a b => a.canonical == b.canonical⟩

instance : Hashable Checksum := ⟨fun c => hash c.canonical⟩

/-! ### Reading a stored form -/

/-- The version and digest at the head of a stored form: one digit, the delimiter, and the longest
run of ASCII letters and digits, which may not be empty.  What follows the run does not matter. -/
def splitVersion? : List Char → Option (Nat × List Char)
  | d :: s :: rest =>
    let run := rest.takeWhile Char.isAlphanum
    if d.isDigit ∧ s = delimiter ∧ run ≠ [] then some (d.toNat - '0'.toNat, run) else none
  | _ => none

/-- Whether a stored form begins with a version. -/
def hasVersion (stored : String) : Bool :=
  (splitVersion? stored.toList).isSome

/-- Read a stored form. -/
def parse (stored : String) : Checksum :=
  match splitVersion? stored.toList with
  | some (version, digest) => ⟨version, String.ofList digest⟩
  | none => ⟨legacyVersion, stored⟩

/-! ### Comparing -/

/-- How a stored checksum relates to a fresh one. -/
inductive Comparison
  | unchanged
  /-- Same algorithm, other digest: the content was modified. -/
  | changed
  /-- Different algorithms, so the digests say nothing about each other. -/
  | algorithmChanged (stored current : Nat)
deriving DecidableEq, Repr

/-- Compare a stored checksum with a fresh one. -/
def compare (stored fresh : Checksum) : Comparison :=
  if stored == fresh then .unchanged
  else if stored.version ≠ fresh.version then .algorithmChanged stored.version fresh.version
  else .changed

end Checksum

end ContentChecksum
