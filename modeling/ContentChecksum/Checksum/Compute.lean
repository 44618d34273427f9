import ContentChecksum.Checksum.Basic
import ContentChecksum.Digest.MD5
import ContentChecksum.Digest.Stream
import ContentChecksum.Hex
import ContentChecksum.Newline.Reader
import ContentChecksum.Text.Canonical

/-!
# Computing checksums

Text is brought into canonical form and hashed.  A stream is hashed as it is, or with its line
breaks unified; nothing else about it is touched, so the two ways agree only on texts that have no
replacement character and are in composed form already.
-/

namespace ContentChecksum

/-- The digest that checksums of the current version are made of, written in hexadecimal. -/
def Checksum.ofDigest (digest : List UInt8) : Checksum :=
  ⟨currentVersion, String.ofList (Hex.encode digest)⟩

/-- The checksum of bytes that are hashed as they are. -/
def Checksum.ofBytes (bytes : List UInt8) : Checksum :=
  ofDigest (md5.digest bytes)

/-- The checksum of a text. -/
def Checksum.ofText (text : String) : Checksum :=
  ofBytes (Text.canonicalBytes text.toList)

/-- The checksum of a text depends on nothing but what is left of it to be composed. -/
theorem Checksum.ofText_congr {a b : List Char} (h : Text.clean a = Text.clean b) :
    ofText (String.ofList a) = ofText (String.ofList b) := by
  rw [ofText, ofText, String.toList_ofList, String.toList_ofList, Text.canonicalBytes,
    Text.canonicalBytes, Text.canonical, Text.canonical, h]

/-- A checksum and the number of bytes that were hashed for it, modulo 2^64. -/
structure Computed where
  checksum : Checksum
  bytes : UInt64
deriving Repr

/-- Hash the canonical form of a text. -/
def Computed.ofText (text : String) : Computed :=
  let bytes := Text.canonicalBytes text.toList
  ⟨.ofBytes bytes, .ofNat bytes.length⟩

/-! ### Streams -/

/-- Why there is no checksum of a byte source. -/
inductive ChecksumError
  /-- Reading failed part of the way. -/
  | read (fault : Fault)
  /-- The file could not be opened. -/
  | openFile (path : String) (fault : Fault)
deriving DecidableEq, Repr

namespace ChecksumError

/-- The words for an error. -/
def message : ChecksumError → String
  | read fault => "read checksum input: " ++ fault.message
  | openFile path fault => "open " ++ path ++ ": " ++ fault.message

/-- The fault behind an error. -/
def fault : ChecksumError → Fault
  | read fault => fault
  | openFile _ fault => fault

end ChecksumError

/-- Hash everything up to the next end of a reader, with its line breaks unified if `unify` is
set. -/
def Computed.ofReader {ρ : Type} [Reader ρ] (unify : Bool) (r : ρ) :
    Except ChecksumError Computed × ρ :=
  let (answer, rest) :=
    if unify then
      let (answer, wrapped) := md5.digestReader (Newline.UnifyingReader.wrap r)
      (answer, wrapped.inner)
    else md5.digestReader r
  match answer with
  | .ok summary => (.ok ⟨.ofDigest summary.digest, summary.total⟩, rest)
  | .error fault => (.error (.read fault), rest)

/-- The checksum of everything up to the next end of a reader. -/
def Checksum.ofReader {ρ : Type} [Reader ρ] (unify : Bool) (r : ρ) :
    Except ChecksumError Checksum × ρ :=
  let (answer, rest) := Computed.ofReader unify r
  (answer.map Computed.checksum, rest)

end ContentChecksum
