import ContentChecksum.Digest.SHA256
import ContentChecksum.Proofs.StreamChecksum

namespace ContentChecksum.HashFunction

/-!
# Digests of pieces

A hash function is fed with whatever pieces a reader hands out, and these fit neither its blocks nor the
chunks that were asked for.  Nothing of this is left in the digest.

* `foldl_update` — by the laws of a hash function, any number of pieces count as one;
* `ok_digestReader_iff` — which scripts have a digest, and what it is;
* `lowercase_hex_of_digest` — how a digest is written;
* `digestReader_eq_digest_of_content` — the digest of a stream is that of its content, taken at once.
-/

/-- **Pieces.** Taking in pieces one after the other is taking in all of them at once, wherever they are
    cut, and also if there are none. -/
theorem foldl_update (h : HashFunction) (s : h.State) (pieces : List (List UInt8)) :
    pieces.foldl h.update s = h.update s pieces.flatten := by
  induction pieces generalizing s with
  | nil => exact (h.update_nil s).symm
  | cons piece pieces ih => rw [List.foldl_cons, ih, List.flatten_cons, h.update_append]

/-- A script has a digest unless it is cut by a fault, and it is that of the content. -/
theorem ok_digestReader_iff {h : HashFunction} {s : Source} {summary : Summary} :
    (h.digestReader s).1 = .ok summary ↔ Script.fault? s.steps = none ∧
      summary.digest = h.digest (Script.content s.steps) ∧
      summary.total = .ofNat (Script.content s.steps).length := by
  obtain ⟨digest, total⟩ := summary
  rw [digestReader_source]
  cases Script.fault? s.steps with
  | none => simp [eq_comm]
  | some fault => simp

/-- A digest is written with two lowercase digits for each of its bytes. -/
theorem lowercase_hex_of_digest (h : HashFunction) (message : List UInt8) :
    (Hex.encode (h.digest message)).length = 2 * h.digestSize ∧
      ∀ c ∈ Hex.encode (h.digest message), Hex.isDigit c = true := by
  refine ⟨?_, fun c => Hex.isDigit_of_mem_encode⟩
  rw [Hex.length_encode, digest, h.length_finish]

-- The two digests of the empty message.
example : String.ofList (Hex.encode (md5.digest [])) = "d41d8cd98f00b204e9800998ecf8427e" ∧
    String.ofList (Hex.encode (sha256.digest [])) =
      "e3b0c44298fc1c149afbf4c8996fb92427ae41e4649b934ca495991b7852b855" := by decide +kernel

/-- **The digest of a stream.** There is one unless a fault that is no interruption comes before the first
    end.  It is the digest of all data before that end, taken at once, with the number of its bytes
    beside it, exact as long as a word of 64 bits can hold it, and is written in lowercase hexadecimal,
    with two digits for each byte of a digest.  So two scripts with the same data before their ends, and
    no such fault, have the same digest, wherever the data is cut and wherever reads are interrupted.
    This holds of every hash function, since pieces that it takes in one after the other count as one. -/
theorem digestReader_eq_digest_of_content (h : HashFunction) (s : Source) :
    (∀ pieces : List (List UInt8),
      h.finish (pieces.foldl h.update h.start) = h.digest pieces.flatten) ∧
    ((∃ summary, (h.digestReader s).1 = .ok summary) ↔ Script.fault? s.steps = none) ∧
    (∀ summary, (h.digestReader s).1 = .ok summary →
      Hex.encode summary.digest = Hex.encode (h.digest (Script.content s.steps)) ∧
      summary.total = .ofNat (Script.content s.steps).length ∧
      ((Script.content s.steps).length < UInt64.size →
        summary.total.toNat = (Script.content s.steps).length) ∧
      (Hex.encode summary.digest).length = 2 * h.digestSize ∧
      ∀ c ∈ Hex.encode summary.digest, Hex.isDigit c = true) ∧
    ∀ s' : Source, Script.content s'.steps = Script.content s.steps →
      Script.fault? s.steps = none → Script.fault? s'.steps = none →
      (h.digestReader s').1 = (h.digestReader s).1 := by
  refine ⟨fun pieces => ?_, ⟨?_, fun hfault => ?_⟩, fun summary hok => ?_, ?_⟩
  · rw [h.foldl_update, digest]
  · rintro ⟨summary, hok⟩
    exact (ok_digestReader_iff.1 hok).1
  · exact ⟨⟨_, _⟩, ok_digestReader_iff.2 ⟨hfault, rfl, rfl⟩⟩
  · obtain ⟨-, hdigest, htotal⟩ := ok_digestReader_iff.1 hok
    rw [hdigest, htotal]
    exact ⟨rfl, rfl, UInt64.toNat_ofNat_of_lt', h.lowercase_hex_of_digest _⟩
  · intro s' hcontent hfault hfault'
    rw [digestReader_source, digestReader_source, hcontent, hfault, hfault']

/-- A script of six bytes, cut into pieces, with an interruption between them and a fault that is never
    reached. -/
def cutHello : Source :=
  .ofSteps [.data [0x68, 0x65], .fail ⟨.interrupted, ""⟩, .data [0x6c, 0x6c, 0x6f, 0x0a], .stop,
    .fail ⟨.brokenPipe, "gone"⟩]

/-- It has the digest of the six bytes in one piece, with either hash function. -/
theorem digest_of_cut_hello :
    let whole := Source.ofBytes [0x68, 0x65, 0x6c, 0x6c, 0x6f, 0x0a]
    Script.fault? cutHello.steps = none ∧
    (∃ summary, (sha256.digestReader cutHello).1 = .ok summary ∧ summary.total.toNat = 6 ∧
      String.ofList (Hex.encode summary.digest) =
        "5891b5b522d5df086d0ff0b110fbd9d21bb4fc7163af34d08286a2e846f6be03") ∧
    (md5.digestReader cutHello).1 = (md5.digestReader whole).1 := by
  intro whole
  have hfault : Script.fault? cutHello.steps = none := rfl
  obtain ⟨-, hends, hwritten, -⟩ := digestReader_eq_digest_of_content sha256 cutHello
  obtain ⟨-, -, -, hsame⟩ := digestReader_eq_digest_of_content md5 whole
  refine ⟨hfault, ?_, hsame cutHello rfl rfl hfault⟩
  obtain ⟨summary, hok⟩ := hends.2 hfault
  obtain ⟨hdigest, -, htotal, -⟩ := hwritten summary hok
  refine ⟨summary, hok, htotal (by decide), ?_⟩
  rw [hdigest]
  decide +kernel

end ContentChecksum.HashFunction
