import ContentChecksum.Digest.Function
import ContentChecksum.Reader.Basic

/-!
# The digest of a reader

A reader is drained into a hash function chunk by chunk, so memory use does not depend on how long
the stream is.  There is a digest only if the reading came to an end: any fault other than an
interruption is answered instead of it.
-/

namespace ContentChecksum.HashFunction

/-- What a drained stream amounts to: its digest and the number of bytes hashed, which is counted in
one word of 64 bits and so modulo 2^64. -/
structure Summary where
  digest : List UInt8
  total : UInt64
deriving DecidableEq, Repr

/-- Digest everything up to the next end of a reader. -/
def digestReader {ρ : Type} [Reader ρ] (h : HashFunction) (r : ρ) : Except Fault Summary × ρ :=
  let d := Reader.drain Reader.chunkSize Reader.chunkSize_pos
    (fun (s : h.State × UInt64) chunk => (h.update s.1 chunk, s.2 + .ofNat chunk.length))
    (h.start, 0) r
  match d.fault with
  | none => (.ok ⟨h.finish d.value.1, d.value.2⟩, d.rest)
  | some fault => (.error fault, d.rest)

end ContentChecksum.HashFunction
