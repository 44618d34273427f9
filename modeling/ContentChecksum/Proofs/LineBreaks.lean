import ContentChecksum.Newline.Bytes

namespace ContentChecksum.Newline

/-!
# Line breaks in bytes: one pass with a flag, two passes without

`emit` rewrites line breaks in a single pass that remembers one flag.  What it is meant to compute
is said more simply by looking at the whole input: first write every CR LF pair as LF, then every
CR that is left (`collapse`).  This file connects the two, and the rewriting inside a buffer with
both:

* `emit_append` / `flagAfter_append` — a stream may be cut anywhere, between CR and LF as well,
  as long as the flag is carried over the cut;
* `emit_false` — from a clear flag the single pass is `collapse`;
* `flagAfter_eq_true_iff` — the flag is set exactly when the last byte was a CR;
* `compact_eq` — the rewriting in place computes `emit` and `flagAfter`.  The invariant of its loop
  is `Compaction.Sound`: the write position stays behind the read position, so everything from the
  read position on is still as it was.
-/

/-! ### The two passes -/

/-- Every CR LF pair replaced by LF. -/
def joinPairs : List UInt8 → List UInt8
  | b :: b' :: rest =>
    if b = cr ∧ b' = lf then lf :: joinPairs rest else b :: joinPairs (b' :: rest)
  | rest => rest

/-- A CR replaced by LF, and every other byte left alone. -/
def crToLF (b : UInt8) : UInt8 :=
  if b = cr then lf else b

/-- Every CR LF pair replaced by LF, and then every remaining CR. -/
def collapse (bytes : List UInt8) : List UInt8 :=
  (joinPairs bytes).map crToLF

/-- All other bytes stay. -/
theorem crToLF_of_ne {b : UInt8} (h : b ≠ cr) : crToLF b = b :=
  if_neg h

/-- A pair is one line break. -/
@[simp] theorem collapse_pair (rest : List UInt8) :
    collapse (cr :: lf :: rest) = lf :: collapse rest := by
  rw [collapse, joinPairs, if_pos ⟨rfl, rfl⟩]
  rfl

/-- A CR without an LF behind it is a line break of its own. -/
theorem collapse_cr {rest : List UInt8} (h : rest.head? ≠ some lf) :
    collapse (cr :: rest) = lf :: collapse rest := by
  cases rest with
  | nil => rfl
  | cons b rest =>
    have hb : b ≠ lf := fun hb => h (by rw [hb]; rfl)
    rw [collapse, joinPairs, if_neg fun hc => hb hc.2]
    rfl

/-- Any byte but a CR is kept. -/
theorem collapse_cons {b : UInt8} (h : b ≠ cr) (rest : List UInt8) :
    collapse (b :: rest) = b :: collapse rest := by
  cases rest with
  | nil =>
    show [crToLF b] = [b]
    rw [crToLF_of_ne h]
  | cons b' rest =>
    rw [collapse, joinPairs, if_neg fun hc => h hc.1, List.map_cons, crToLF_of_ne h]
    rfl

/-- A front without a CR is kept as it is. -/
theorem collapse_append {front : List UInt8} (h : cr ∉ front) (rest : List UInt8) :
    collapse (front ++ rest) = front ++ collapse rest := by
  induction front with
  | nil => rfl
  | cons b front ih =>
    rw [List.mem_cons, not_or] at h
    rw [List.cons_append, collapse_cons (Ne.symm h.1), ih h.2, List.cons_append]

/-! ### One pass, byte by byte -/

@[simp] theorem emit_nil (flag : Bool) : emit flag [] = [] := rfl

theorem emit_cons (flag : Bool) (b : UInt8) (rest : List UInt8) :
    emit flag (b :: rest) = (step flag b).1.toList ++ emit (step flag b).2 rest := rfl

@[simp] theorem flagAfter_nil (flag : Bool) : flagAfter flag [] = flag := rfl

theorem flagAfter_cons (flag : Bool) (b : UInt8) (rest : List UInt8) :
    flagAfter flag (b :: rest) = flagAfter (step flag b).2 rest := rfl

/-- The flag after a byte says whether the byte was a CR, whatever the flag was before. -/
theorem step_snd (flag : Bool) (b : UInt8) : (step flag b).2 = decide (b = cr) := by
  unfold step
  by_cases hcr : b = cr
  · simp [hcr]
  · rw [if_neg hcr]
    split <;> simp [hcr]

/-- A CR goes out as LF at once. -/
@[simp] theorem emit_cr (flag : Bool) (rest : List UInt8) :
    emit flag (cr :: rest) = lf :: emit true rest := rfl

/-- The LF of a pair is swallowed. -/
@[simp] theorem emit_true_lf (rest : List UInt8) : emit true (lf :: rest) = emit false rest := rfl

/-- With a clear flag, any byte but a CR goes out as it is. -/
theorem emit_false_cons {b : UInt8} (h : b ≠ cr) (rest : List UInt8) :
    emit false (b :: rest) = b :: emit false rest := by
  simp [emit_cons, step, h]

/-- The flag matters only for an LF that comes first. -/
theorem emit_true_eq {bytes : List UInt8} (h : bytes.head? ≠ some lf) :
    emit true bytes = emit false bytes := by
  cases bytes with
  | nil => rfl
  | cons b rest =>
    have hb : b ≠ lf := fun hb => h (by rw [hb]; rfl)
    simp [emit_cons, step, hb]

/-! ### Cutting a stream -/

/-- The flag is handed on from chunk to chunk. -/
theorem flagAfter_append (flag : Bool) (xs ys : List UInt8) :
    flagAfter flag (xs ++ ys) = flagAfter (flagAfter flag xs) ys :=
  List.foldl_append

/-- **Cuts do not matter.** What goes out for two pieces is what goes out for them together, if
    the flag after the first is the flag before the second. -/
theorem emit_append (flag : Bool) (xs ys : List UInt8) :
    emit flag (xs ++ ys) = emit flag xs ++ emit (flagAfter flag xs) ys := by
  induction xs generalizing flag with
  | nil => rfl
  | cons b rest ih =>
    rw [List.cons_append, emit_cons, emit_cons, ih, flagAfter_cons, List.append_assoc]

/-- The flag is set exactly when the last byte was a CR. -/
theorem flagAfter_eq_true_iff (bytes : List UInt8) :
    flagAfter false bytes = true ↔ bytes.getLast? = some cr := by
  rcases List.eq_nil_or_concat bytes with rfl | ⟨front, b, rfl⟩
  · simp
  · rw [List.concat_eq_append, flagAfter_append, flagAfter_cons, flagAfter_nil, step_snd]
    simp

/-! ### One pass is two passes -/

/-- **The single pass computes the two passes.** The flag stands for what the first of them sees by
    looking at two bytes at once. -/
theorem emit_false (bytes : List UInt8) : emit false bytes = collapse bytes := by
  fun_induction joinPairs bytes with
  | case1 b b' rest h ih =>
    obtain ⟨rfl, rfl⟩ := h
    rw [emit_cr, emit_true_lf, ih, collapse_pair]
  | case2 b b' rest h ih =>
    by_cases hb : b = cr
    · subst hb
      have hb' : (b' :: rest).head? ≠ some lf := by
        intro hc
        exact h ⟨rfl, Option.some.inj hc⟩
      rw [emit_cr, emit_true_eq hb', ih, collapse_cr hb']
    · rw [emit_false_cons hb, ih, collapse_cons hb]
  | case3 bytes h =>
    match bytes with
    | [] => rfl
    | [b] =>
      by_cases hb : b = cr
      · subst hb; rfl
      · rw [emit_false_cons hb, collapse_cons hb]; rfl
    | b :: b' :: rest => exact absurd rfl (h b b' rest)

-- A pair, a CR before a pair, and a CR at the end.
example : collapse [0x61, 0x0d, 0x0a, 0x0d, 0x0d, 0x0a, 0x0a, 0x0d] =
    [0x61, 0x0a, 0x0a, 0x0a, 0x0a, 0x0a] := by decide

/-! ### The same inside a buffer -/

namespace Compaction

/-- What holds of a compaction of `original`, begun with `flag`, whenever some bytes have been
    read: the output and the flag are those of the bytes before the read position, and everything
    from the read position on is as it was. -/
structure Sound (original : Array UInt8) (flag : Bool) (w : Compaction) : Prop where
  written_le : w.written ≤ w.position
  size_eq : w.buffer.size = original.size
  flag_eq : w.afterCR = flagAfter flag (original.toList.take w.position)
  output_eq : w.output = emit flag (original.toList.take w.position)
  ahead_eq : w.buffer.toList.drop w.position = original.toList.drop w.position

/-- What has been written stands at the front of the buffer. -/
theorem output_eq_take (w : Compaction) : w.output = w.buffer.toList.take w.written := by
  simp [output]

/-- A swallowed byte only moves the read position. -/
theorem advance_of_none {w : Compaction} {flag : Bool}
    (h : step w.afterCR (w.buffer.getD w.position 0) = (none, flag)) :
    w.advance = { w with position := w.position + 1, afterCR := flag } := by
  obtain ⟨buffer, position, written, afterCR⟩ := w
  simp only [advance, h]

/-- What goes out for a byte is put at the write position. -/
theorem advance_of_some {w : Compaction} {out : UInt8} {flag : Bool}
    (h : step w.afterCR (w.buffer.getD w.position 0) = (some out, flag)) :
    w.advance = ⟨w.buffer.setIfInBounds w.written out, w.position + 1, w.written + 1, flag⟩ := by
  obtain ⟨buffer, position, written, afterCR⟩ := w
  simp only [advance, h]

/-- A step takes one byte. -/
theorem position_advance (w : Compaction) : w.advance.position = w.position + 1 := by
  rcases hstep : step w.afterCR (w.buffer.getD w.position 0) with ⟨_ | out, flag⟩
  · rw [advance_of_none hstep]
  · rw [advance_of_some hstep]

/-- So many steps take so many. -/
theorem position_run (n : Nat) (w : Compaction) : (run n w).position = w.position + n := by
  induction n generalizing w with
  | zero => rfl
  | succ n ih => rw [run, ih, position_advance]; omega

/-- The loop starts with nothing read and nothing written. -/
theorem Sound.start (original : Array UInt8) (flag : Bool) :
    Sound original flag (start original flag) where
  written_le := Nat.le_refl _
  size_eq := rfl
  flag_eq := by simp [Compaction.start]
  output_eq := by simp [Compaction.start, output]
  ahead_eq := rfl

/-- The byte that is read next is still the original one. -/
theorem Sound.getD_position {original : Array UInt8} {flag : Bool} {w : Compaction}
    (h : Sound original flag w) (hlt : w.position < original.size) :
    w.buffer.getD w.position 0 = original[w.position] := by
  have hhead := congrArg List.head? h.ahead_eq
  rw [List.head?_drop, List.head?_drop] at hhead
  have hlt' : w.position < w.buffer.size := by rw [h.size_eq]; exact hlt
  simpa [Array.getD, hlt, hlt'] using hhead

/-- What is ahead of the read position stays as it was when the position moves on. -/
theorem Sound.drop_succ {original : Array UInt8} {flag : Bool} {w : Compaction}
    (h : Sound original flag w) :
    w.buffer.toList.drop (w.position + 1) = original.toList.drop (w.position + 1) := by
  rw [← List.drop_drop, ← List.drop_drop, h.ahead_eq]

/-- **One step.** The byte read is the original one, and what goes out for it is put into its place
    or into an earlier one. -/
theorem Sound.advance {original : Array UInt8} {flag : Bool} {w : Compaction}
    (h : Sound original flag w) (hlt : w.position < original.size) :
    Sound original flag w.advance := by
  have hbyte := h.getD_position hlt
  have hdrop := h.drop_succ
  have htake : original.toList.take (w.position + 1)
      = original.toList.take w.position ++ [original[w.position]] := by
    rw [List.take_add_one, Array.getElem?_toList, Array.getElem?_eq_getElem hlt]
    rfl
  have hflag : flagAfter flag (original.toList.take (w.position + 1))
      = (step w.afterCR original[w.position]).2 := by
    rw [htake, flagAfter_append, ← h.flag_eq]
    rfl
  have hemit : emit flag (original.toList.take (w.position + 1))
      = w.output ++ (step w.afterCR original[w.position]).1.toList := by
    rw [htake, emit_append, ← h.flag_eq, ← h.output_eq, emit_cons, emit_nil, List.append_nil]
  rw [← hbyte] at hflag hemit
  rw [output_eq_take] at hemit
  rcases hstep : step w.afterCR (w.buffer.getD w.position 0) with ⟨_ | out, flag'⟩
  · rw [advance_of_none hstep]
    rw [hstep] at hflag hemit
    refine ⟨Nat.le_succ_of_le h.written_le, h.size_eq, hflag.symm, ?_, hdrop⟩
    rw [hemit, output_eq_take]
    exact (List.append_nil _).symm
  · -- the slot that is written has been read by now, so what is ahead does not change
    rw [advance_of_some hstep]
    rw [hstep] at hflag hemit
    have hle := h.written_le
    have hin : w.written < w.buffer.toList.length := by
      rw [Array.length_toList, h.size_eq]; omega
    refine ⟨Nat.succ_le_succ hle, by rw [Array.size_setIfInBounds, h.size_eq], hflag.symm, ?_, ?_⟩
    · rw [hemit, output_eq_take, Array.toList_setIfInBounds, List.take_add_one,
        List.take_set_of_le (Nat.le_refl _), List.getElem?_set_self hin]
    · show (w.buffer.setIfInBounds w.written out).toList.drop (w.position + 1) = _
      rw [Array.toList_setIfInBounds, List.drop_set_of_lt (by omega), hdrop]

/-- **The whole loop.** The invariant holds after any number of bytes that the buffer has. -/
theorem Sound.run {original : Array UInt8} {flag : Bool} {n : Nat} {w : Compaction}
    (h : Sound original flag w) (hn : w.position + n ≤ original.size) :
    Sound original flag (run n w) := by
  induction n generalizing w with
  | zero => exact h
  | succ n ih =>
    refine ih (h.advance (by omega)) ?_
    rw [position_advance]; omega

/-- The read position counts the steps of the loop. -/
theorem position_run_start (buffer : Array UInt8) (flag : Bool) (n : Nat) :
    (run n (start buffer flag)).position = n :=
  (position_run n _).trans (Nat.zero_add n)

/-- The invariant holds from the start of a buffer to its end. -/
theorem Sound.run_start (buffer : Array UInt8) (flag : Bool) {n : Nat} (hn : n ≤ buffer.size) :
    Sound buffer flag (Compaction.run n (Compaction.start buffer flag)) := by
  refine (Sound.start buffer flag).run ?_
  show 0 + n ≤ buffer.size
  rwa [Nat.zero_add]

end Compaction

/-- **Rewriting in place.** A chunk rewritten inside its buffer is what goes out for it, with the
    flag after it. -/
theorem compact_eq (flag : Bool) (chunk : List UInt8) :
    compact flag chunk = (emit flag chunk, flagAfter flag chunk) := by
  have h := Compaction.Sound.run_start chunk.toArray flag (Nat.le_refl _)
  have hall : chunk.toArray.toList.take
      (Compaction.run chunk.toArray.size (Compaction.start chunk.toArray flag)).position
        = chunk := by
    rw [Compaction.position_run_start]
    simp
  rw [compact, h.output_eq, h.flag_eq, hall]

-- The LF of a pair is swallowed also when its CR came in the chunk before.
example : compact true [0x0a, 0x61, 0x0d, 0x0a, 0x0d] = ([0x61, 0x0a, 0x0a], true) := by decide

end ContentChecksum.Newline
