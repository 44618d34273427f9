import ContentChecksum.Proofs.LineBreaks

namespace ContentChecksum.Newline

/-!
# Compacting inside one buffer

A chunk is compacted inside the buffer that it was read into.  Reading and writing share their bytes,
and the two positions drift apart, so what is written might fall on a byte that is still to be read.
It never does:

* `length_emit_add_pairEnds` — the bytes of a chunk are those that go out and the LFs of its pairs;
* `Compaction.Sound.written_add_pairEnds` — so the positions drift apart by one at each pair, and by
  nothing else;
* `Compaction.getElem?_advance_of_ne` — a step touches no byte but the one at the write position;
* `Compaction.run_compacts_in_bounds` — what every step of the loop, and the whole of it, does to a
  buffer.
-/

/-! ### The ends of pairs -/

/-- The byte at place `i` is an LF directly behind a CR.  A set flag stands for a CR in front of the
    first byte. -/
def EndsPair (flag : Bool) (bytes : List UInt8) (i : Nat) : Prop :=
  bytes[i]? = some lf ∧ if i = 0 then flag = true else bytes[i - 1]? = some cr

instance (flag : Bool) (bytes : List UInt8) : DecidablePred (EndsPair flag bytes) :=
  fun _ => instDecidableAnd

/-- The number of places at which a pair ends. -/
def pairEnds (flag : Bool) (bytes : List UInt8) : Nat :=
  (List.range bytes.length).countP (EndsPair flag bytes ·)

variable {flag : Bool} {b : UInt8} {rest : List UInt8}

theorem endsPair_zero : EndsPair flag (b :: rest) 0 ↔ b = lf ∧ flag = true := by
  simp [EndsPair]

/-- Behind the first byte, that byte decides in place of the flag. -/
theorem endsPair_succ {i : Nat} :
    EndsPair flag (b :: rest) (i + 1) ↔ EndsPair (step flag b).2 rest i := by
  rw [step_snd]
  cases i <;> simp [EndsPair]

theorem pairEnds_cons :
    pairEnds flag (b :: rest) =
      pairEnds (step flag b).2 rest + if b = lf ∧ flag = true then 1 else 0 := by
  have hrest : (List.range rest.length).countP ((EndsPair flag (b :: rest) ·) ∘ Nat.succ) =
      pairEnds (step flag b).2 rest :=
    List.countP_congr fun i _ => by simp [endsPair_succ]
  rw [pairEnds, List.length_cons, List.range_succ_eq_map, List.countP_cons, List.countP_map, hrest]
  simp only [endsPair_zero, decide_eq_true_eq]

/-- For one byte, something goes out unless the byte ends a pair. -/
theorem length_step_add (flag : Bool) (b : UInt8) :
    (step flag b).1.toList.length + (if b = lf ∧ flag = true then 1 else 0) = 1 := by
  unfold step
  by_cases hcr : b = cr
  · simp [hcr, cr, lf]
  · rw [if_neg hcr]
    by_cases hlf : b = lf ∧ flag = true <;> simp [hlf]

/-- **Nothing else is swallowed.** What goes out for some bytes and the LFs of their pairs are as many
    as the bytes. -/
theorem length_emit_add_pairEnds (flag : Bool) (bytes : List UInt8) :
    (emit flag bytes).length + pairEnds flag bytes = bytes.length := by
  induction bytes generalizing flag with
  | nil => rfl
  | cons b rest ih =>
    have hone := length_step_add flag b
    have hmore := ih (step flag b).2
    rw [emit_cons, List.length_append, pairEnds_cons, List.length_cons]
    omega

/-! ### One step in the buffer -/

namespace Compaction

variable {original : Array UInt8} {w : Compaction}

/-- A step touches no byte but the one at the write position. -/
theorem getElem?_advance_of_ne {i : Nat} (h : i ≠ w.written) : w.advance.buffer[i]? = w.buffer[i]? := by
  rcases hstep : step w.afterCR (w.buffer.getD w.position 0) with ⟨_ | out, flag⟩
  · rw [advance_of_none hstep]
  · rw [advance_of_some hstep]
    exact Array.getElem?_setIfInBounds_ne h.symm

/-- The last step may be split off as well as the first. -/
theorem run_succ (n : Nat) (w : Compaction) : run (n + 1) w = (run n w).advance := by
  induction n generalizing w with
  | zero => rfl
  | succ n ih => exact ih w.advance

/-- A byte that has not been read is the original one. -/
theorem Sound.getElem?_ahead (h : Sound original flag w) {i : Nat} (hi : w.position ≤ i) :
    w.buffer[i]? = original[i]? := by
  have hbyte := congrArg (fun bytes => bytes[i - w.position]?) h.ahead_eq
  simpa [List.getElem?_drop, Nat.add_sub_cancel' hi] using hbyte

/-- The write position counts what has gone out. -/
theorem Sound.written_eq (h : Sound original flag w) (hle : w.position ≤ original.size) :
    w.written = (emit flag (original.toList.take w.position)).length := by
  have hin : w.written ≤ w.buffer.toList.length := by
    rw [Array.length_toList, h.size_eq]
    exact Nat.le_trans h.written_le hle
  rw [← h.output_eq, output_eq_take, List.length_take, Nat.min_eq_left hin]

/-- **The drift.** The write position falls behind the read position by one for each pair that has been
    read to its end. -/
theorem Sound.written_add_pairEnds (h : Sound original flag w) (hle : w.position ≤ original.size) :
    w.written + pairEnds flag (original.toList.take w.position) = w.position := by
  rw [h.written_eq hle, length_emit_add_pairEnds, List.length_take, Array.length_toList,
    Nat.min_eq_left hle]

/-! ### The loop -/

/-- **Compacting in place.** Let a chunk of `n` bytes be at the front of a buffer.  Whenever `k` of them
    have been read, the write position is at most the read position, which is `k`, and from there on
    the buffer is as it was.  The step for the next byte reads and writes inside the buffer: it reads the
    original byte, and the only byte that it may change is one that has been read by then.

    At the end, what is written is what goes out for the chunk byte by byte, the buffer behind the chunk is
    untouched, the flag is the one after the chunk, and what the output is shorter by are the LFs of the
    pairs.  A chunk compacted in a buffer of its own comes to the same. -/
theorem run_compacts_in_bounds (buffer : Array UInt8) (flag : Bool) {n : Nat}
    (hn : n ≤ buffer.size) :
    (∀ k, k ≤ n →
      let w := run k (start buffer flag)
      w.position = k ∧ w.written ≤ w.position ∧ w.position ≤ n ∧ w.buffer.size = buffer.size ∧
        ∀ i, w.position ≤ i → w.buffer[i]? = buffer[i]?) ∧
    (∀ k, k < n →
      let w := run k (start buffer flag)
      let w' := run (k + 1) (start buffer flag)
      w.position < w.buffer.size ∧ w.written < w.buffer.size ∧
        w.buffer[w.position]? = buffer[k]? ∧ w.written < w'.position ∧
        ∀ i, i ≠ w.written → w'.buffer[i]? = w.buffer[i]?) ∧
    let w := run n (start buffer flag)
    w.output = emit flag (buffer.toList.take n) ∧ w.output.length = w.written ∧
      (∀ i, n ≤ i → w.buffer[i]? = buffer[i]?) ∧
      w.afterCR = flagAfter flag (buffer.toList.take n) ∧
      n - w.written = pairEnds flag (buffer.toList.take n) ∧
      compact flag (buffer.toList.take n) = (w.output, w.afterCR) := by
  have hposition : ∀ k, (run k (start buffer flag)).position = k := position_run_start buffer flag
  have hsound : ∀ k, k ≤ n → Sound buffer flag (run k (start buffer flag)) := fun k hk =>
    Sound.run_start buffer flag (Nat.le_trans hk hn)
  refine ⟨fun k hk => ?_, fun k hk => ?_, ?_⟩
  · have h := hsound k hk
    exact ⟨hposition k, h.written_le, Nat.le_trans (Nat.le_of_eq (hposition k)) hk, h.size_eq,
      fun i hi => h.getElem?_ahead hi⟩
  · intro w w'
    -- one step: both places are inside the buffer, as what is written is behind what is read
    have h : Sound buffer flag w := hsound k (Nat.le_of_lt hk)
    have hw : w.position = k := hposition k
    have hw' : w'.position = k + 1 := hposition (k + 1)
    have hsize := h.size_eq
    have hle := h.written_le
    refine ⟨by omega, by omega, ?_, by omega, fun i hi => ?_⟩
    · rw [h.getElem?_ahead (Nat.le_refl _), hw]
    · have hadvance : w' = w.advance := run_succ k _
      rw [hadvance, getElem?_advance_of_ne hi]
  · intro w
    -- at the end the position is `n`, so the invariant speaks of the whole chunk
    have h : Sound buffer flag w := hsound n (Nat.le_refl _)
    have hw : w.position = n := hposition n
    have hle : w.position ≤ buffer.size := by rw [hw]; exact hn
    have houtput := h.output_eq
    have hflag := h.flag_eq
    have hwritten := h.written_eq hle
    have hdrift := h.written_add_pairEnds hle
    rw [hw] at houtput hflag hwritten hdrift
    refine ⟨houtput, by rw [houtput, hwritten], fun i hi => h.getElem?_ahead (by rwa [hw]), hflag,
      by omega, ?_⟩
    rw [compact_eq, houtput, hflag]

/-- A chunk of nine bytes behind a CR, in a buffer that holds two more from an earlier read. -/
theorem run_compacts_three_pairs :
    let buffer := #[lf, 0x61, cr, lf, cr, cr, lf, lf, cr, lf, 0x7a]
    let w := run 9 (start buffer true)
    9 ≤ buffer.size ∧ w.output = [0x61, lf, lf, lf, lf, lf] ∧ w.afterCR = true ∧ w.written = 6 ∧
      ∀ i, 9 ≤ i → w.buffer[i]? = buffer[i]? := by
  intro buffer w
  have hn : 9 ≤ buffer.size := by decide
  obtain ⟨-, -, houtput, -, hbehind, hflag, hdrift, -⟩ := run_compacts_in_bounds buffer true hn
  have hpairs : 9 - w.written = 3 := hdrift.trans (by decide)
  exact ⟨hn, houtput.trans (by decide), hflag.trans (by decide), by omega, hbehind⟩

end Compaction

end ContentChecksum.Newline
