import ContentChecksum.Proofs.MixedReading

namespace ContentChecksum.Newline.UnifyingReader

/-!
# Draining by any mixture of calls

Whoever drains a `UnifyingReader` may ask it for single bytes and for chunks of any sizes, in any
order, until one of the calls meets an end or a fault that is not an interruption.

* `Call.answer` — what a call answers, and `drainCalls` — the calls made one after the other until
  one of the answers ends the drain;
* `drain_of_call` — a drain in chunks of one size begins like a call of that size, so a call takes
  nothing from what is still to come but what it returns;
* `drainCalls_eq_some` — so a drain by any calls gives what a drain in chunks gives.  By `drain_eq`
  this is what goes out for the content of the script;
* `exists_drainCalls` — and it ends: with each call that does not end it, the source has less to
  answer (`remaining_perform_lt`), so more calls than it has answers are enough.
-/

variable {r : UnifyingReader Source} {call : Call} {calls : List Call} {seen : List UInt8}

/-! ### Calls and their answers -/

/-- The most bytes that a call may return. -/
def Call.size : Call → Nat
  | .next => 1
  | .read n => n

/-- What a call answers: bytes, none of them at an end, or a fault. -/
def Call.answer : Call → UnifyingReader Source → Except Fault (List UInt8)
  | .next, r => r.next.1.map Option.toList
  | .read n, r => (r.read n).1

/-- Make calls one after the other until one of them meets an end, or a fault that is not an
    interruption.  There is no result if the calls are used up before. -/
def drainCalls : List Call → List UInt8 → UnifyingReader Source →
    Option (Reader.Drained (List UInt8) (UnifyingReader Source))
  | [], _, _ => none
  | call :: calls, seen, r =>
    match call.answer r with
    | .ok [] => some ⟨seen, none, (call.perform r).2⟩
    | .ok (b :: bs) => drainCalls calls (seen ++ b :: bs) (call.perform r).2
    | .error fault =>
      if fault.isInterrupted then drainCalls calls seen (call.perform r).2
      else some ⟨seen, some fault, (call.perform r).2⟩

/-! ### One call -/

/-- Interrupted reads are tried again, so `next` never answers with one. -/
theorem isInterrupted_of_next {fault : Fault} (h : r.next.1 = .error fault) :
    fault.isInterrupted = false := by
  fun_induction next r with
  | case1 => cases h
  | case2 => cases h
  | case3 r b tail inner hread _ flag hstep ih => exact ih h
  | case4 r fault' inner hread _ hi ih => exact ih h
  | case5 r fault' inner hread _ hi =>
    cases h
    simpa using hi

/-- **One call.** A drain in chunks begins like a call for a chunk, and a drain byte by byte like a call
    for the next byte. -/
theorem drain_of_call {α : Type} (f : α → List UInt8 → α) (a : α) (call : Call)
    (hsize : 0 < call.size) (r : UnifyingReader Source) :
    Reader.drain call.size hsize f a r = match call.answer r with
      | .ok [] => ⟨a, none, (call.perform r).2⟩
      | .ok (b :: bs) => Reader.drain call.size hsize f (f a (b :: bs)) (call.perform r).2
      | .error fault =>
        if fault.isInterrupted then Reader.drain call.size hsize f a (call.perform r).2
        else ⟨a, some fault, (call.perform r).2⟩ := by
  cases call with
  | next =>
    -- a fault that is answered for the next byte is never an interruption
    have hfault := @isInterrupted_of_next r
    simp only [Call.answer, Call.perform]
    refine (drain_one f a r).trans ?_
    rcases hnext : r.next with ⟨fault | _ | b, r'⟩
    · have hi := hfault (congrArg Prod.fst hnext)
      simp [hi, Except.map]
    · rfl
    · rfl
  | read n =>
    have hread : Reader.read n r = r.read n := rfl
    simp only [Call.answer, Call.perform]
    show Reader.drain n hsize f a r = _
    rcases hcall : r.read n with ⟨fault | _ | ⟨b, bs⟩, r'⟩
    · rw [hcall] at hread
      dsimp only
      by_cases hi : fault.isInterrupted = true
      · rw [if_pos hi]
        exact Reader.drain_of_interrupted hread hi
      · rw [if_neg hi]
        exact Reader.drain_of_fault hread (by simpa using hi)
    · exact Reader.drain_of_end (hread.trans hcall)
    · exact Reader.drain_of_chunk (hread.trans hcall) (List.cons_ne_nil b bs)

/-- A call that does not find an end leaves less to answer. -/
theorem remaining_perform_lt (hsize : 0 < call.size) (h : call.answer r ≠ .ok []) :
    Reader.remaining (call.perform r).2.inner < Reader.remaining r.inner := by
  cases call with
  | next =>
    apply remaining_next_lt
    intro hnone
    apply h
    simp only [Call.answer, hnone]
    rfl
  | read n => exact Reader.remaining_read_lt (ρ := UnifyingReader Source) hsize h

/-! ### All calls -/

/-- What a reader has still to give: all that goes out up to the next end or fault of its script, that
    fault, and the steps behind it. -/
def prospect (r : UnifyingReader Source) : List UInt8 × Option Fault × List Step :=
  (emit r.afterCR (Script.content r.inner.steps), Script.fault? r.inner.steps,
    Script.rest r.inner.steps)

/-- A drain in chunks gives just that, whatever the size of the chunks. -/
theorem drain_prospect {n : Nat} (hn : 0 < n) (seen : List UInt8) (r : UnifyingReader Source) :
    ((Reader.drain n hn (· ++ ·) seen r).value, (Reader.drain n hn (· ++ ·) seen r).fault,
      (Reader.drain n hn (· ++ ·) seen r).rest.inner.steps) =
        (seen ++ (prospect r).1, (prospect r).2) := by
  rw [drain_eq hn Reader.seamless_append]
  rfl

/-- What a call leaves to be given, in terms of its answer. -/
theorem prospect_of_call (hsize : 0 < call.size) (r : UnifyingReader Source) :
    prospect r = match call.answer r with
      | .ok [] => ([], none, (call.perform r).2.inner.steps)
      | .ok (b :: bs) => (b :: bs ++ (prospect (call.perform r).2).1, (prospect (call.perform r).2).2)
      | .error fault =>
        if fault.isInterrupted then prospect (call.perform r).2
        else ([], some fault, (call.perform r).2.inner.steps) := by
  -- the drain in chunks of the size of the call begins with the call, and both give the prospect
  have h := drain_prospect hsize [] r
  rw [drain_of_call] at h
  rw [List.nil_append] at h
  refine h.symm.trans ?_
  rcases call.answer r with fault | _ | ⟨b, bs⟩
  · dsimp only
    by_cases hi : fault.isInterrupted = true
    · rw [if_pos hi, if_pos hi]
      exact drain_prospect hsize [] _
    · rw [if_neg hi, if_neg hi]
  · rfl
  · exact drain_prospect hsize (b :: bs) _

/-- **Draining by calls.** Whatever the calls are, a drain by them gives all that the reader has to give,
    and stops behind the first end or fault of its script. -/
theorem drainCalls_eq_some {d : Reader.Drained (List UInt8) (UnifyingReader Source)}
    (hsize : ∀ call ∈ calls, 0 < call.size) (h : drainCalls calls seen r = some d) :
    (d.value, d.fault, d.rest.inner.steps) = (seen ++ (prospect r).1, (prospect r).2) := by
  induction calls generalizing seen r with
  | nil => cases h
  | cons call calls ih =>
    rw [List.forall_mem_cons] at hsize
    have hcall := prospect_of_call hsize.1 r
    unfold drainCalls at h
    rcases hanswer : call.answer r with fault | _ | ⟨b, bs⟩
    · rw [hanswer] at h hcall
      dsimp only at h hcall
      by_cases hi : fault.isInterrupted = true
      · rw [if_pos hi] at h hcall
        rw [ih hsize.2 h, hcall]
      · rw [if_neg hi] at h hcall
        rw [hcall, ← Option.some.inj h, List.append_nil]
    · rw [hanswer] at h hcall
      rw [hcall, ← Option.some.inj h, List.append_nil]
    · rw [hanswer] at h hcall
      rw [ih hsize.2 h, hcall, List.append_assoc]

/-- **Drains end.** A drain needs no more calls than the source has answers, and one for the end. -/
theorem exists_drainCalls (hsize : ∀ call ∈ calls, 0 < call.size)
    (hlength : Reader.remaining r.inner < calls.length) : ∃ d, drainCalls calls seen r = some d := by
  induction calls generalizing seen r with
  | nil => exact absurd hlength (Nat.not_lt_zero _)
  | cons call calls ih =>
    rw [List.forall_mem_cons] at hsize
    have hless : call.answer r ≠ .ok [] → Reader.remaining (call.perform r).2.inner < calls.length := by
      intro hne
      have hlt := remaining_perform_lt hsize.1 hne
      rw [List.length_cons] at hlength
      omega
    unfold drainCalls
    split
    · exact ⟨_, rfl⟩
    · rename_i hanswer
      exact ih hsize.2 (hless (by simp [hanswer]))
    · rename_i hanswer
      split
      · exact ih hsize.2 (hless (by simp [hanswer]))
      · exact ⟨_, rfl⟩

end ContentChecksum.Newline.UnifyingReader
