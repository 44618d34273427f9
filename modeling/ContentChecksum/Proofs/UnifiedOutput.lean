import ContentChecksum.Proofs.CanonicalTexts
import ContentChecksum.Proofs.MixedDraining

namespace ContentChecksum.Newline

/-!
# What a reader makes of the bytes of a text

Line breaks are unified in two places: `unify?` looks ahead in the characters of a text, and answers
only if there is something to change; a `UnifyingReader` goes through bytes, with one flag for what
was before.  On the bytes of a text the reader gives the bytes of the answer, or those of the text
itself if there is none.

* `unify?_eq_none_iff` — there is no answer exactly if the text is unified already;
* `Renders` — the bytes of what `unify?` means, which are those of the text only without an answer.
  By `collapse_encode` it is what `collapse` makes of the bytes of the text (`renders_collapse`);
* `UnifyingReader.drainCalls_renders` — this is what a drain gives, whatever the pieces that the
  source hands out and whatever the calls;
* `UnifyingReader.run_renders` — and what calls return that go on after faults and ends, once they
  have left no byte in the source.
-/

/-! ### Texts that are unified already -/

/-- There is nothing to change exactly in the texts that unifying does not change. -/
theorem unify?_eq_none_iff (text : List Char) : unify? text = none ↔ unify text = text := by
  unfold unify?
  by_cases hcr : '\r' ∈ text
  · rw [if_pos hcr]
    constructor
    · intro h
      cases h
    · intro h
      rw [← h] at hcr
      exact absurd hcr (cr_not_mem_unify text)
  · rw [if_neg hcr]
    exact iff_of_true rfl (unify_eq_self hcr)

/-- The bytes of the text with its line breaks unified, which are its own bytes exactly if `unify?` has
    no answer. -/
structure Renders (text : List Char) (out : List UInt8) : Prop where
  out_eq : out = Utf8.encode ((unify? text).getD text)
  none_iff : unify? text = none ↔ out = Utf8.encode text

/-- **Bytes and characters.** What becomes of the bytes of a text are the bytes of what becomes of the
    text. -/
theorem renders_collapse (text : List Char) : Renders text (collapse (Utf8.encode text)) where
  out_eq := by rw [collapse_encode, getD_unify?]
  none_iff := by rw [collapse_encode, Utf8.encode_inj, unify?_eq_none_iff]

namespace UnifyingReader

variable {text : List Char} {s : Source} {calls : List Call}

/-! ### Reading to the end -/

/-- What a reader has to give at the start of a source that holds the bytes of a text, and then ends. -/
theorem prospect_wrap (hcontent : Script.content s.steps = Utf8.encode text)
    (hfault : Script.fault? s.steps = none) :
    prospect (wrap s) = (collapse (Utf8.encode text), none, Script.rest s.steps) := by
  unfold prospect
  show (emit false (Script.content s.steps), Script.fault? s.steps, Script.rest s.steps) = _
  rw [emit_false, hcontent, hfault]

/-- **Drains of a text.** Any calls that reach the end have met no fault, and have returned what `unify?`
    means. -/
theorem drainCalls_renders {d : Reader.Drained (List UInt8) (UnifyingReader Source)}
    (hcontent : Script.content s.steps = Utf8.encode text) (hfault : Script.fault? s.steps = none)
    (hsize : ∀ call ∈ calls, 0 < call.size) (h : drainCalls calls [] (wrap s) = some d) :
    Renders text d.value ∧ d.fault = none := by
  have hd := drainCalls_eq_some hsize h
  rw [prospect_wrap hcontent hfault, List.nil_append] at hd
  simp only [Prod.mk.injEq] at hd
  obtain ⟨hvalue, hnone, -⟩ := hd
  rw [hvalue]
  exact ⟨renders_collapse text, hnone⟩

/-- A drain in chunks of one size returns the same. -/
theorem drain_renders {n : Nat} (hn : 0 < n)
    (hcontent : Script.content s.steps = Utf8.encode text) (hfault : Script.fault? s.steps = none) :
    Renders text (Reader.drain n hn (· ++ ·) [] (wrap s)).value ∧
      (Reader.drain n hn (· ++ ·) [] (wrap s)).fault = none := by
  rw [Source.drain_wrap hn Reader.seamless_append, hcontent, hfault]
  exact ⟨renders_collapse text, rfl⟩

/-! ### Reading all that a source holds -/

/-- Calls that leave no byte in the source have returned what `unify?` means, whatever the faults and
    ends that they have met on the way. -/
theorem run_renders (hbytes : s.bytes = Utf8.encode text)
    (hleft : (run calls (wrap s)).2.inner.bytes = []) : Renders text (run calls (wrap s)).1 := by
  obtain ⟨taken, h⟩ := run_relays calls (wrap s)
  -- no byte is left, so all bytes have been taken
  have htaken : taken = Utf8.encode text := by
    have hall := h.reads.bytes_eq
    rw [hleft, List.append_nil] at hall
    rw [← hall, ← hbytes]
    rfl
  have hout : (run calls (wrap s)).1 = collapse (Utf8.encode text) := by
    rw [h.out_eq, ← htaken, ← emit_false]
    rfl
  rw [hout]
  exact renders_collapse text

/-- **The reader and the text.** A source holds the bytes of a text, in pieces of any sizes: a character
    may be cut, and so may a pair of CR and LF.  Whoever reads it to its end, by any mixture of calls
    for single bytes and for chunks of any sizes, gets the bytes of the text that `unify?` means: of its
    answer, or of the text itself if there is none.  There is none exactly if the bytes that come out
    are those that went in.  Enough calls do reach the end; and calls that go on after faults and ends
    get the same bytes, once the source holds no more. -/
theorem reader_output_is_unified_text (text : String) (s : Source) (calls : List Call) :
    (Script.content s.steps = Utf8.encode text.toList → Script.fault? s.steps = none →
      ((∀ call ∈ calls, 0 < call.size) →
        (Reader.remaining s < calls.length → ∃ d, drainCalls calls [] (wrap s) = some d) ∧
        ∀ d, drainCalls calls [] (wrap s) = some d → Renders text.toList d.value ∧ d.fault = none) ∧
      (∀ n hn, Renders text.toList (Reader.drain n hn (· ++ ·) [] (wrap s)).value ∧
        (Reader.drain n hn (· ++ ·) [] (wrap s)).fault = none) ∧
      Renders text.toList (pullAll (wrap s)).value ∧ (pullAll (wrap s)).fault = none) ∧
    (s.bytes = Utf8.encode text.toList → (run calls (wrap s)).2.inner.bytes = [] →
      Renders text.toList (run calls (wrap s)).1) := by
  refine ⟨fun hcontent hfault => ⟨?_, ?_, ?_⟩, run_renders⟩
  · intro hsize
    exact ⟨exists_drainCalls (r := wrap s) hsize, fun d => drainCalls_renders hcontent hfault hsize⟩
  · intro n hn
    exact drain_renders hn hcontent hfault
  · rw [pullAll, pullOnto_eq_drain]
    exact drain_renders Nat.one_pos hcontent hfault

/-- Letters of two bytes before and behind a pair, all of them cut, with an interruption in the pair. -/
theorem reader_output_of_cut_letters :
    let s : Source := .ofSteps [.data [0xc3], .data [0xa9, 0x0d], .fail ⟨.interrupted, ""⟩,
      .data [0x0a, 0xc3], .data [0xbc, 0x0d]]
    ∃ d, drainCalls (.replicate 7 (.read 2) ++ .replicate 6 .next) [] (wrap s) = some d ∧
      d.value = Utf8.encode "é\nü\n".toList ∧
      Renders "é\r\nü\r".toList (run (.replicate 8 .next) (wrap s)).1 := by
  intro s
  have hcontent : Script.content s.steps = Utf8.encode "é\r\nü\r".toList := by decide +kernel
  obtain ⟨hdrain, hrun⟩ := reader_output_is_unified_text "é\r\nü\r" s
    (.replicate 7 (.read 2) ++ .replicate 6 .next)
  obtain ⟨hends, hgives⟩ := (hdrain hcontent rfl).1 (by decide)
  obtain ⟨d, hd⟩ := hends (by decide)
  obtain ⟨hrenders, -⟩ := hgives d hd
  refine ⟨d, hd, hrenders.out_eq.trans (by decide +kernel), ?_⟩
  exact (reader_output_is_unified_text "é\r\nü\r" s (.replicate 8 .next)).2 (by decide +kernel)
    (by decide +kernel)

end UnifyingReader

end ContentChecksum.Newline
