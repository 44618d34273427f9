import ContentChecksum.Checksum.Compute
import ContentChecksum.Proofs.Draining

namespace ContentChecksum

/-!
# Checksums of streams

A stream is hashed in chunks of `Reader.chunkSize` bytes, and with its line breaks unified each of
those may take two reads.  Hashing is a seamless fold, so by `Source.drain_source` and
`Source.drain_wrap` none of this shows: the checksum of a script is a function of its content and
of the fault that cuts it (`ofReader_source`).
-/

namespace HashFunction

/-- Hashing does not see where chunks are cut, and neither does counting bytes, also where the count
    wraps. -/
theorem update_seamless (h : HashFunction) :
    Reader.Seamless fun (s : h.State × UInt64) chunk =>
      (h.update s.1 chunk, s.2 + .ofNat chunk.length) where
  nil s := by
    rw [h.update_nil]
    exact congrArg (Prod.mk s.1) (UInt64.add_zero s.2)
  append s xs ys := by
    rw [h.update_append, List.length_append, UInt64.ofNat_add, UInt64.add_assoc]

/-- The digest of a script, as far as there is one. -/
theorem digestReader_source (h : HashFunction) (s : Source) :
    h.digestReader s =
      (match Script.fault? s.steps with
        | none => .ok ⟨h.digest (Script.content s.steps), .ofNat (Script.content s.steps).length⟩
        | some fault => .error fault,
      ⟨Script.rest s.steps, s.reads + Script.reads Reader.chunkSize s.steps⟩) := by
  rw [digestReader, Source.drain_source _ h.update_seamless]
  cases Script.fault? s.steps <;> simp [digest]

/-- The digest of a script with its line breaks unified. -/
theorem digestReader_wrap (h : HashFunction) (s : Source) :
    h.digestReader (Newline.UnifyingReader.wrap s) =
      (match Script.fault? s.steps with
        | none => .ok ⟨h.digest (Newline.collapse (Script.content s.steps)),
            .ofNat (Newline.collapse (Script.content s.steps)).length⟩
        | some fault => .error fault,
      ⟨⟨Script.rest s.steps, s.reads + Script.reads Reader.chunkSize s.steps⟩,
        Newline.flagAfter false (Script.content s.steps)⟩) := by
  rw [digestReader, Source.drain_wrap _ h.update_seamless]
  cases Script.fault? s.steps <;> simp [digest]

end HashFunction

/-! ### The checksum of a script -/

namespace Checksum

/-- The bytes that are hashed for a script. -/
def hashedBytes (unify : Bool) (steps : List Step) : List UInt8 :=
  if unify then Newline.collapse (Script.content steps) else Script.content steps

/-- What `ofReader` answers for a script, and the source as it leaves it. -/
theorem ofReader_source (unify : Bool) (s : Source) :
    Checksum.ofReader unify s =
      (match Script.fault? s.steps with
        | none => .ok (.ofBytes (hashedBytes unify s.steps))
        | some fault => .error (.read fault),
      ⟨Script.rest s.steps, s.reads + Script.reads Reader.chunkSize s.steps⟩) := by
  rw [Checksum.ofReader, Computed.ofReader, hashedBytes]
  cases unify with
  | true =>
    rw [if_pos rfl, HashFunction.digestReader_wrap]
    cases Script.fault? s.steps <;> rfl
  | false =>
    rw [if_neg Bool.false_ne_true, HashFunction.digestReader_source]
    cases Script.fault? s.steps <;> rfl

/-- **The checksum of a stream.** It is the digest of the whole content, under version 8, unless a
    fault cuts the script before its first end: then there is no digest but that very fault.  Either
    way the steps up to that end or fault are used up, and no other.  Nothing else about the script
    counts: two scripts that end alike and have the same content have the same checksum, however
    their data is cut into pieces and wherever reads are interrupted. -/
theorem ofReader_eq_digest_of_content (unify : Bool) (s : Source) :
    ((Checksum.ofReader unify s).1 = match Script.fault? s.steps with
      | none => .ok ⟨8, String.ofList (Hex.encode (md5.digest (hashedBytes unify s.steps)))⟩
      | some fault => .error (.read fault)) ∧
    (Checksum.ofReader unify s).2.steps = Script.rest s.steps ∧
    ∀ s' : Source, Script.content s'.steps = Script.content s.steps →
      Script.fault? s'.steps = Script.fault? s.steps →
      (Checksum.ofReader unify s').1 = (Checksum.ofReader unify s).1 := by
  refine ⟨?_, ?_, fun s' hcontent hfault => ?_⟩
  · rw [ofReader_source]
    rfl
  · rw [ofReader_source]
  · rw [ofReader_source, ofReader_source, hfault, hashedBytes, hashedBytes, hcontent]

-- A pair cut in two, an interruption inside it, and a fault that is never reached.
example :
    let steps := [.data [0x61, 0x0d], .fail ⟨.interrupted, ""⟩, .data [0x0a, 0x62], .stop,
      .fail ⟨.brokenPipe, "gone"⟩]
    hashedBytes true steps = [0x61, 0x0a, 0x62] ∧ Script.fault? steps = none := by decide

end Checksum

end ContentChecksum
