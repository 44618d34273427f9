import ContentChecksum.Proofs.MixedDraining

namespace ContentChecksum

/-!
# How often a call reads from the source

A call on a `UnifyingReader` reads from its source until something goes out.  Nothing goes out for the
LF of a pair, so a call may have to read again, but not for long: the flag is clear from then on.

* `Source.Answers` — some reads of a source and their answers.  The source counts them as well
  (`Source.Answers.reads_eq`);
* `emit_eq_nil_iff` — a chunk is swallowed whole only if it is a single LF, and the flag was set;
* `read_of_swallowed`, `read_of_kept` — so a call for a chunk begins again with the flag clear, or is
  done with its first read;
* `exists_answers_of_read`, `exists_answers_of_next` — how many reads a call makes, and that its answer
  is an end exactly if one of theirs is;
* `reads_are_few_and_drains_end` — both, and what follows for drains.
-/

namespace Source

/-! ### Reads and their answers -/

/-- Reads of at most `n` bytes take `s` to `s'`, and these are their answers in order. -/
inductive Answers (n : Nat) : Source → List (Except Fault (List UInt8)) → Source → Prop
  | nil (s : Source) : Answers n s [] s
  | cons {s s' s'' : Source} {answer : Except Fault (List UInt8)}
    {answers : List (Except Fault (List UInt8))} (h : read n s = (answer, s'))
    (h' : Answers n s' answers s'') : Answers n s (answer :: answers) s''

variable {n : Nat} {s s' : Source} {answers : List (Except Fault (List UInt8))}

/-- Each read is counted once. -/
theorem reads_read (n : Nat) (s : Source) : (read n s).2.reads = s.reads + 1 := by
  unfold read
  split
  · rfl
  · rfl
  · rfl
  · rfl
  · split <;> rfl

/-- There are as many answers as the source has counted reads. -/
theorem Answers.reads_eq (h : Answers n s answers s') : s'.reads = s.reads + answers.length := by
  induction h with
  | nil => rfl
  | @cons s s' s'' answer answers hread _ ih =>
    have hone := reads_read n s
    rw [hread] at hone
    rw [ih, hone, List.length_cons]
    omega

theorem Answers.one {answer : Except Fault (List UInt8)} (h : read n s = (answer, s')) :
    Answers n s [answer] s' :=
  .cons h (.nil s')

/-- Whether a read was merely interrupted. -/
def isInterruption : Except Fault (List UInt8) → Bool
  | .ok _ => false
  | .error fault => fault.isInterrupted

end Source

namespace Newline

/-! ### What is swallowed -/

/-- With a clear flag, something goes out for every chunk. -/
theorem emit_false_ne_nil {chunk : List UInt8} (h : chunk ≠ []) : emit false chunk ≠ [] := by
  obtain ⟨b, rest, rfl⟩ := List.exists_cons_of_ne_nil h
  by_cases hb : b = cr
  · simp [hb]
  · simp [emit_false_cons hb]

/-- A chunk is swallowed whole only if it is the LF of a pair. -/
theorem emit_eq_nil_iff {flag : Bool} {chunk : List UInt8} (h : chunk ≠ []) :
    emit flag chunk = [] ↔ flag = true ∧ chunk = [lf] := by
  constructor
  · intro hnil
    cases flag with
    | false => exact absurd hnil (emit_false_ne_nil h)
    | true =>
      by_cases hhead : chunk.head? = some lf
      · obtain ⟨rest, rfl⟩ := List.head?_eq_some_iff.1 hhead
        rw [emit_true_lf] at hnil
        -- the flag is clear behind the LF, so whatever came next would go out
        cases rest with
        | nil => exact ⟨rfl, rfl⟩
        | cons b rest => exact absurd hnil (emit_false_ne_nil (List.cons_ne_nil b rest))
      · rw [emit_true_eq hhead] at hnil
        exact absurd hnil (emit_false_ne_nil h)
  · rintro ⟨rfl, rfl⟩
    rfl

/-- No more goes out than comes in. -/
theorem length_emit_le (flag : Bool) (bytes : List UInt8) :
    (emit flag bytes).length ≤ bytes.length := by
  induction bytes generalizing flag with
  | nil => simp
  | cons b rest ih =>
    have hrest := ih (step flag b).2
    have hone : ∀ out : Option UInt8, out.toList.length ≤ 1 := by intro out; cases out <;> simp
    have hb := hone (step flag b).1
    rw [emit_cons, List.length_append, List.length_cons]
    omega

namespace UnifyingReader

variable {n : Nat} {r : UnifyingReader Source} {inner : Source}

/-! ### Calls for a chunk -/

/-- A call that has read a swallowed LF begins again, with the flag clear. -/
theorem read_of_swallowed (hn : 0 < n) (h : Source.read n r.inner = (.ok [lf], inner))
    (hflag : r.afterCR = true) : r.read n = (⟨inner, false⟩ : UnifyingReader Source).read n := by
  refine (read_of_chunk hn h (List.cons_ne_nil lf [])).trans ?_
  rw [hflag]
  rfl

/-- A call that reads something else is done.  It answers with an end exactly if the read did, and
    otherwise, unless it fails, with at least one byte and at most as many as were asked for. -/
theorem read_of_kept (hn : 0 < n) {answer : Except Fault (List UInt8)}
    (h : Source.read n r.inner = (answer, inner)) (hkept : ¬ (r.afterCR = true ∧ answer = .ok [lf])) :
    (r.read n).2.inner = inner ∧ ((r.read n).1 = .ok [] ↔ answer = .ok []) ∧
      ∀ out, (r.read n).1 = .ok out → answer ≠ .ok [] → 1 ≤ out.length ∧ out.length ≤ n := by
  rcases answer with fault | chunk
  · have hcall : r.read n = (.error fault, ⟨inner, r.afterCR⟩) := read_of_fault hn h
    rw [hcall]
    exact ⟨rfl, ⟨nofun, nofun⟩, nofun⟩
  · by_cases hne : chunk = []
    · subst hne
      have hcall : r.read n = (.ok [], ⟨inner, r.afterCR⟩) := read_of_end hn h
      rw [hcall]
      exact ⟨rfl, Iff.rfl, fun _ _ hno => absurd rfl hno⟩
    · -- if nothing went out for it, it would be the LF of a pair
      have hout : emit r.afterCR chunk ≠ [] := by
        intro hnil
        obtain ⟨hflag, rfl⟩ := (emit_eq_nil_iff hne).1 hnil
        exact hkept ⟨hflag, rfl⟩
      have hcall : r.read n = (.ok (emit r.afterCR chunk), ⟨inner, flagAfter r.afterCR chunk⟩) :=
        (read_of_chunk hn h hne).trans (if_neg hout)
      have hchunk : chunk.length ≤ n := by
        have := Source.length_handedOut_le n r.inner
        rwa [h] at this
      have hlength := length_emit_le r.afterCR chunk
      have hpos := List.length_pos_iff.2 hout
      rw [hcall]
      refine ⟨rfl, by simp [hout, hne], ?_⟩
      intro out heq _
      obtain rfl : emit r.afterCR chunk = out := Except.ok.inj heq
      omega

/-- **Reads of a call for a chunk.** There are one or two, and two exactly if the flag was set and the
    first handed out a single LF.  The call answers with an end exactly if one of them does, and
    otherwise, unless it fails, with at least one byte and at most as many as were asked for. -/
theorem exists_answers_of_read (hn : 0 < n) (r : UnifyingReader Source) :
    ∃ answers, Source.Answers n r.inner answers (r.read n).2.inner ∧
      1 ≤ answers.length ∧ answers.length ≤ 2 ∧
      (answers.length = 2 ↔ r.afterCR = true ∧ (Source.read n r.inner).1 = .ok [lf]) ∧
      ((r.read n).1 = .ok [] ↔ .ok [] ∈ answers) ∧
      ∀ out, (r.read n).1 = .ok out → .ok [] ∉ answers → 1 ≤ out.length ∧ out.length ≤ n := by
  rcases hread : Source.read n r.inner with ⟨answer, s⟩
  by_cases hswallowed : r.afterCR = true ∧ answer = .ok [lf]
  · -- the second read begins with a clear flag, so it is the last
    obtain ⟨hflag, rfl⟩ := hswallowed
    rw [read_of_swallowed hn hread hflag]
    rcases hagain : Source.read n s with ⟨answer, s'⟩
    obtain ⟨hinner, hend, hsome⟩ := read_of_kept (r := ⟨s, false⟩) hn hagain (by simp)
    rw [hinner, hend]
    refine ⟨[.ok [lf], answer], .cons hread (.one hagain), by simp, by simp, by simp [hflag], ?_, ?_⟩
    · simp [eq_comm]
    · intro out hout hno
      exact hsome out hout (by simpa [eq_comm] using hno)
  · obtain ⟨hinner, hend, hsome⟩ := read_of_kept hn hread hswallowed
    rw [hinner, hend]
    refine ⟨[answer], .one hread, by simp, by simp, by simpa using hswallowed, ?_, ?_⟩
    · simp [eq_comm]
    · intro out hout hno
      exact hsome out hout (by simpa [eq_comm] using hno)

/-! ### Calls for the next byte -/

/-- A byte is swallowed only with the flag set, which is clear afterwards. -/
theorem flags_of_swallowed {b : UInt8} {before after : Bool} (h : step before b = (none, after)) :
    before = true ∧ after = false := by
  unfold step at h
  split at h
  · cases h
  · split at h
    · rename_i hlf
      exact ⟨hlf.2, (congrArg Prod.snd h).symm⟩
    · cases h

/-- **Reads of a call for the next byte.** Interruptions apart, there is at most one with a clear flag,
    and at most one more if the flag was set.  The call answers with an end exactly if one of them
    does. -/
theorem exists_answers_of_next (r : UnifyingReader Source) :
    ∃ answers, Source.Answers 1 r.inner answers r.next.2.inner ∧
      (answers.filter (!Source.isInterruption ·)).length ≤ (if r.afterCR then 2 else 1) ∧
      (r.next.1 = .ok none ↔ .ok [] ∈ answers) := by
  have hone : ∀ flag : Bool, 1 ≤ if flag then 2 else 1 := by decide
  fun_induction next r with
  | case1 r inner hread => exact ⟨[.ok []], .one hread, hone r.afterCR, by simp⟩
  | case2 r b tail inner hread _ out flag hstep =>
    exact ⟨[.ok (b :: tail)], .one hread, hone r.afterCR, by simp⟩
  | case3 r b tail inner hread _ flag hstep ih =>
    -- the flag is spent on the LF, so what is still to be read is read without it
    obtain ⟨hflag, rfl⟩ := flags_of_swallowed hstep
    obtain ⟨answers, hanswers, hfew, hend⟩ := ih
    refine ⟨.ok (b :: tail) :: answers, .cons hread hanswers, ?_, ?_⟩
    · rw [hflag, List.filter_cons_of_pos (by rfl), List.length_cons]
      exact Nat.succ_le_succ hfew
    · simpa using hend
  | case4 r fault inner hread _ hi ih =>
    obtain ⟨answers, hanswers, hfew, hend⟩ := ih
    refine ⟨.error fault :: answers, .cons hread hanswers, ?_, ?_⟩
    · rwa [List.filter_cons_of_neg (by simpa [Source.isInterruption] using hi)]
    · simpa using hend
  | case5 r fault inner hread _ hi =>
    refine ⟨[.error fault], .one hread, ?_, by simp⟩
    rw [List.filter_cons_of_pos (by simpa [Source.isInterruption] using hi)]
    exact hone r.afterCR

/-! ### Calls and drains -/

/-- **Few reads, and drains that end.** A call for a chunk reads once, or twice if the flag was set and
    the first read handed out a single LF, and it answers with nothing exactly if a read of its own
    did.  A call for the next byte reads twice at most, interruptions apart, and finds no byte exactly
    if a read of its own found none.

    So a drain by calls of any kind ends, with no more of them than the source has answers and one for
    the end; it gives all that goes out up to the first end or fault of the script, and it leaves the
    steps behind them.  Drains in chunks and byte by byte give the same. -/
theorem reads_are_few_and_drains_end (r : UnifyingReader Source) :
    (∀ n, 0 < n → ∃ answers, Source.Answers n r.inner answers (r.read n).2.inner ∧
      (r.read n).2.inner.reads = r.inner.reads + answers.length ∧
      1 ≤ answers.length ∧ answers.length ≤ 2 ∧
      (answers.length = 2 ↔ r.afterCR = true ∧ (Source.read n r.inner).1 = .ok [lf]) ∧
      ((r.read n).1 = .ok [] ↔ .ok [] ∈ answers) ∧
      ∀ out, (r.read n).1 = .ok out → .ok [] ∉ answers → 1 ≤ out.length ∧ out.length ≤ n) ∧
    (∃ answers, Source.Answers 1 r.inner answers r.next.2.inner ∧
      r.next.2.inner.reads = r.inner.reads + answers.length ∧
      (answers.filter (!Source.isInterruption ·)).length ≤ 2 ∧
      (r.next.1 = .ok none ↔ .ok [] ∈ answers)) ∧
    (∀ calls, (∀ call ∈ calls, 0 < call.size) →
      (Reader.remaining r.inner < calls.length → ∃ d, drainCalls calls [] r = some d) ∧
      ∀ d, drainCalls calls [] r = some d →
        (d.value, d.fault, d.rest.inner.steps) = prospect r) ∧
    (∀ n hn, ((Reader.drain n hn (· ++ ·) [] r).value, (Reader.drain n hn (· ++ ·) [] r).fault,
      (Reader.drain n hn (· ++ ·) [] r).rest.inner.steps) = prospect r) ∧
    ((pullAll r).value, (pullAll r).fault, (pullAll r).rest.inner.steps) = prospect r := by
  refine ⟨?_, ?_, ?_, ?_, ?_⟩
  · intro n hn
    obtain ⟨answers, hanswers, hrest⟩ := exists_answers_of_read hn r
    exact ⟨answers, hanswers, hanswers.reads_eq, hrest⟩
  · obtain ⟨answers, hanswers, hfew, hend⟩ := exists_answers_of_next r
    refine ⟨answers, hanswers, hanswers.reads_eq, Nat.le_trans hfew ?_, hend⟩
    -- behind a CR a byte takes two reads at most, and elsewhere one
    split <;> decide
  · intro calls hsize
    exact ⟨exists_drainCalls hsize, fun d hd => drainCalls_eq_some hsize hd⟩
  · intro n hn
    exact drain_prospect hn [] r
  · rw [pullAll, pullOnto_eq_drain]
    exact drain_prospect Nat.one_pos [] r

/-- A reader behind a CR, and a source that begins with a piece of one LF. -/
def behindCR : UnifyingReader Source :=
  ⟨.ofSteps [.data [lf], .fail ⟨.interrupted, ""⟩, .data [0x7a], .stop, .data [0x79]], true⟩

/-- The first call on it reads twice, and a drain of it is neither stopped by the swallowed LF nor by the
    interruption behind it, but by the end before the last piece. -/
theorem reads_and_drain_behind_cr :
    (∃ answers, Source.Answers 8 behindCR.inner answers (behindCR.read 8).2.inner ∧
      answers.length = 2) ∧
    ∃ d, drainCalls [.read 8, .next, .read 3, .next, .read 1, .next, .read 2, .next, .next] []
        behindCR = some d ∧
      (d.value, d.fault) = ([0x7a], none) := by
  obtain ⟨hread, -, hdrain, -, -⟩ := reads_are_few_and_drains_end behindCR
  constructor
  · obtain ⟨answers, hanswers, -, -, -, htwo, -⟩ := hread 8 (by decide)
    exact ⟨answers, hanswers, htwo.2 ⟨rfl, rfl⟩⟩
  · obtain ⟨hends, hgives⟩ := hdrain [.read 8, .next, .read 3, .next, .read 1, .next, .read 2, .next,
      .next] (by decide)
    obtain ⟨d, hd⟩ := hends (by decide)
    refine ⟨d, hd, ?_⟩
    have h := hgives d hd
    simp only [Prod.ext_iff] at h ⊢
    exact ⟨h.1, h.2.1⟩

end UnifyingReader

end Newline

end ContentChecksum
