import ContentChecksum.Proofs.StreamChecksum
import Mathlib.Algebra.Order.Floor.Div
import Mathlib.GroupTheory.GroupAction.Ring

namespace ContentChecksum

/-!
# What hashing a stream takes from its source

With line breaks unified or not, a stream is read by two quite different loops: one read of a
`UnifyingReader` may take two of the wrapped reader, and either of them may be interrupted.  All the
same, both leave the source alike.

* `Reader.drain_alike` — two drains of one reader, whatever they make of the chunks, meet the same
  fault and leave the same reader;
* `HashFunction.digestReader_alike`, `Checksum.ofReader_alike` — since `drain_unifying` makes one drain
  of the two loops, this holds of hashing with line breaks unified and without;
* `Step.reads_eq`, `Script.reads_eq` — the reads that a script takes, counted by its steps;
* `consumption_ignores_unification` — both for checksums of streams.
-/

/-! ### Two drains of one reader -/

/-- **Two drains.** How a reader is used does not depend on what is made of its chunks. -/
theorem Reader.drain_alike {ρ α β : Type} [Reader ρ] {n : Nat} (hn : 0 < n)
    (f : α → List UInt8 → α) (g : β → List UInt8 → β) (a : α) (b : β) (r : ρ) :
    (drain n hn f a r).fault = (drain n hn g b r).fault ∧
      (drain n hn f a r).rest = (drain n hn g b r).rest := by
  fun_induction drain n hn f a r generalizing b with
  | case1 a r r' hread =>
    rw [drain_of_end hread]
    exact ⟨rfl, rfl⟩
  | case2 a r c cs r' hread hlt ih =>
    rw [drain_of_chunk hread (List.cons_ne_nil c cs)]
    exact ih (g b (c :: cs))
  | case3 a r fault r' hread hlt hi ih =>
    rw [drain_of_interrupted hread hi]
    exact ih b
  | case4 a r fault r' hread hlt hi =>
    rw [drain_of_fault hread (by simpa using hi)]
    exact ⟨rfl, rfl⟩

section

variable {ρ : Type} [Reader ρ]

namespace HashFunction

variable (h : HashFunction)

/-- A digest leaves its reader as any drain in chunks of the same size does, and fails as that does. -/
theorem digestReader_alike_drain {β : Type} (g : β → List UInt8 → β) (b : β) (r : ρ) :
    (h.digestReader r).2 = (Reader.drain Reader.chunkSize Reader.chunkSize_pos g b r).rest ∧
      ∀ fault, (h.digestReader r).1 = .error fault ↔
        (Reader.drain Reader.chunkSize Reader.chunkSize_pos g b r).fault = some fault := by
  have halike := fun f =>
    Reader.drain_alike Reader.chunkSize_pos f g (h.start, (0 : UInt64)) b r
  rw [digestReader, ← (halike _).1, ← (halike _).2]
  generalize Reader.drain Reader.chunkSize Reader.chunkSize_pos _ (h.start, (0 : UInt64)) r = d
  obtain ⟨value, _ | fault, rest⟩ := d
  · exact ⟨rfl, fun _ => by simp⟩
  · exact ⟨rfl, fun _ => by simp⟩

/-- **Two digests.** With line breaks unified, a digest leaves the wrapped reader as it is left without,
    and fails as it fails without. -/
theorem digestReader_alike (r : ρ) :
    (h.digestReader (Newline.UnifyingReader.wrap r)).2.inner = (h.digestReader r).2 ∧
      ∀ fault, (h.digestReader (Newline.UnifyingReader.wrap r)).1 = .error fault ↔
        (h.digestReader r).1 = .error fault := by
  -- a fold that forgets the chunks is enough to see how the readers are used
  let forget : Unit → List UInt8 → Unit := fun _ _ => ()
  obtain ⟨hrest, herror⟩ :=
    h.digestReader_alike_drain (Newline.UnifyingReader.through forget) ((), false) r
  obtain ⟨hrest', herror'⟩ :=
    h.digestReader_alike_drain forget () (Newline.UnifyingReader.wrap r)
  have hone := Newline.UnifyingReader.drain_unifying Reader.chunkSize_pos (f := forget)
    (fun _ => rfl) ((), false) r
  rw [Newline.UnifyingReader.wrap] at hrest' herror' ⊢
  rw [hone] at hrest' herror'
  refine ⟨?_, fun fault => ?_⟩
  · rw [hrest', hrest]
  · rw [herror', herror]

end HashFunction

/-- **Two checksums.** Whether line breaks are unified or not, a checksum leaves its reader alike, and
    fails alike. -/
theorem Checksum.ofReader_alike (r : ρ) :
    (Checksum.ofReader true r).2 = (Checksum.ofReader false r).2 ∧
      ∀ error, (Checksum.ofReader true r).1 = .error error ↔
        (Checksum.ofReader false r).1 = .error error := by
  obtain ⟨hrest, herror⟩ := md5.digestReader_alike r
  simp only [Checksum.ofReader, Computed.ofReader, if_true, Bool.false_eq_true, if_false]
  rcases hunified : md5.digestReader (Newline.UnifyingReader.wrap r) with ⟨fault | summary, left⟩ <;>
  rcases hplain : md5.digestReader r with ⟨fault' | summary', left'⟩ <;>
  simp only [hunified, hplain] at hrest herror
  · obtain rfl : fault' = fault := by simpa using (herror fault).1 rfl
    exact ⟨hrest, fun _ => Iff.rfl⟩
  · cases (herror fault).1 rfl
  · cases (herror fault').2 rfl
  · refine ⟨hrest, fun _ => ?_⟩
    simp [Except.map]

end

/-! ### Counting reads -/

/-- Whether a step interrupts a read. -/
def Step.isInterruption : Step → Bool
  | .fail fault => fault.isInterrupted
  | _ => false

/-- The reads that it takes to get past a step: one for an interruption, and for a piece of data one for
    every `n` bytes of it and one for what is left over. -/
theorem Step.reads_eq {step : Step} (n : Nat) (h : step.passes = true) :
    step.reads n = (if step.isInterruption then 1 else 0) + step.size ⌈/⌉ n := by
  match step with
  | .data bytes =>
    show (bytes.length + n - 1) / n = (if false = true then 1 else 0) + bytes.length ⌈/⌉ n
    rw [Nat.ceilDiv_eq_add_pred_div, if_neg Bool.false_ne_true, Nat.zero_add]
  | .fail fault =>
    have hi : fault.isInterrupted = true := h
    show 1 = (if fault.isInterrupted = true then 1 else 0) + 0 ⌈/⌉ n
    rw [if_pos hi, zero_ceilDiv, Nat.add_zero]
  | .stop => exact absurd h Bool.false_ne_true

namespace Script

/-- A script is cut at its first end or fault, unless it runs out before. -/
theorem exists_cut (steps : List Step) :
    ∃ stopper : Option Step, steps = steps.takeWhile Step.passes ++ stopper.toList ++ rest steps ∧
      (∀ step ∈ stopper, step.passes = false) ∧ (stopper = none → rest steps = []) := by
  have hsplit : steps.takeWhile Step.passes ++ steps.dropWhile Step.passes = steps :=
    List.takeWhile_append_dropWhile
  have hstops := List.head?_dropWhile_not Step.passes steps
  unfold rest
  cases hdrop : steps.dropWhile Step.passes with
  | nil =>
    rw [hdrop, List.append_nil] at hsplit
    exact ⟨none, by simp [hsplit], nofun, fun _ => rfl⟩
  | cons stopper tail =>
    rw [hdrop] at hsplit hstops
    refine ⟨some stopper, by simp [hsplit], ?_, nofun⟩
    intro step hstep
    rw [← Option.some.inj hstep]
    exact hstops

/-- **Counting reads.** One for every interruption, one or more for every piece of data, and one for the
    end or fault. -/
theorem reads_eq (n : Nat) (steps : List Step) :
    reads n steps = (steps.takeWhile Step.passes).countP Step.isInterruption +
      ((steps.takeWhile Step.passes).map fun step => step.size ⌈/⌉ n).sum + 1 := by
  induction steps with
  | nil => rfl
  | cons step steps ih =>
    by_cases hp : step.passes = true
    · rw [reads_cons_of_passes n hp, ih, Step.reads_eq n hp, List.takeWhile_cons_of_pos hp,
        List.countP_cons, List.map_cons, List.sum_cons]
      omega
    · rw [reads_cons_of_not_passes n (by simpa using hp), List.takeWhile_cons_of_neg hp]
      rfl

end Script

/-- **Consumption.** Unifying line breaks has no influence on how a stream is consumed.  Whatever the
    reader, the checksum leaves it the same with and without, and there is the same error, or none.  Of
    a script, it consumes all steps up to the first end or fault that is no interruption, and no
    other.  This takes one read for each interruption among them, one for each 65536 bytes of a piece of
    data and one for the bytes left over, and one for the end or fault. -/
theorem consumption_ignores_unification :
    (∀ {ρ : Type} [Reader ρ] (r : ρ),
      (Checksum.ofReader true r).2 = (Checksum.ofReader false r).2 ∧
      ∀ error, (Checksum.ofReader true r).1 = .error error ↔
        (Checksum.ofReader false r).1 = .error error) ∧
    ∀ (unify : Bool) (s : Source), ∃ (passed : List Step) (stopper : Option Step),
      s.steps = passed ++ stopper.toList ++ (Checksum.ofReader unify s).2.steps ∧
      (∀ step ∈ passed, step.passes = true) ∧ (∀ step ∈ stopper, step.passes = false) ∧
      (stopper = none → (Checksum.ofReader unify s).2.steps = []) ∧
      (Checksum.ofReader unify s).2.reads = s.reads + (passed.countP Step.isInterruption +
        (passed.map fun step => step.size ⌈/⌉ 65536).sum + 1) := by
  refine ⟨fun r => Checksum.ofReader_alike r, fun unify s => ?_⟩
  obtain ⟨stopper, hsteps, hstops, hout⟩ := Script.exists_cut s.steps
  rw [Checksum.ofReader_source]
  refine ⟨s.steps.takeWhile Step.passes, stopper, hsteps, ?_, hstops, hout, ?_⟩
  · intro step hstep
    exact List.all_eq_true.mp List.all_takeWhile step hstep
  · exact congrArg (s.reads + ·) (Script.reads_eq Reader.chunkSize s.steps)

-- Two reads for five bytes, one for the interruption, one for the byte behind it, one for the end.
example : Script.reads 4 [.data [1, 2, 3, 4, 5], .fail ⟨.interrupted, ""⟩, .data [6], .stop, .data [7]] =
    5 := by decide

end ContentChecksum
