import ContentChecksum.Checksum.Basic
import Std.Data.HashSet

/-!
# Sets of checksums

A hash set of checksums, where the same canonical form is the same member.  `insert` and `remove`
tell whether they changed anything.
-/

namespace ContentChecksum.Checksum

/-- A hash set of checksums. -/
abbrev Set := Std.HashSet Checksum

namespace Set

/-- The set without members. -/
def empty : Set := ∅

/-- Put a checksum in; `true` if it was not there. -/
def insert (s : Set) (c : Checksum) : Bool × Set :=
  let (present, s) := s.containsThenInsert c
  (!present, s)

/-- Take a checksum out; `true` if it was there. -/
def remove (s : Set) (c : Checksum) : Bool × Set :=
  (s.contains c, s.erase c)

end Set

end ContentChecksum.Checksum
