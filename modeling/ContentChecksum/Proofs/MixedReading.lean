import ContentChecksum.Proofs.Draining

namespace ContentChecksum

/-!
# Reading byte by byte and in chunks, in any mixture

A `UnifyingReader` may be asked for the next byte or for a chunk, in any order, and it may be asked
again after a fault or an end.  Whatever the calls were, what they returned is `collapse` of what
the source has handed out, and the flag tells whether that ended in a CR:

* `Source.Reads s bytes s'` — reads of some sizes took `s` to `s'` and handed out `bytes`.  Sources
  hand out their data in order, so `bytes` is what `s` holds and `s'` does not
  (`Source.Reads.bytes_eq`);
* `Relays` — the step invariant: bytes were taken from the source, what `emit` makes of them was let
  out, and the flag is the one after them.  It holds of a single call (`perform_relays`), and by
  `Relays.trans` of a run of calls (`run_relays`);
* `pullOnto_eq_drain` — pulling all bytes one by one is a drain in chunks of one byte.
-/

namespace Source

/-! ### What a source hands out -/

/-- All bytes that a source still holds. -/
def bytes (s : Source) : List UInt8 :=
  s.steps.flatMap Step.bytes

/-- The bytes that a read hands out, none if it fails. -/
def handedOut : Except Fault (List UInt8) → List UInt8
  | .ok chunk => chunk
  | .error _ => []

/-- Reads of some sizes take `s` to `s'` and hand out `bytes` in all. -/
inductive Reads : Source → List UInt8 → Source → Prop
  | refl (s : Source) : Reads s [] s
  | step {s s' : Source} {bytes : List UInt8} (n : Nat) (h : Reads s bytes s') :
    Reads s (bytes ++ handedOut (read n s').1) (read n s').2

/-- What is read in two stretches is read in one. -/
theorem Reads.trans {s s' s'' : Source} {xs ys : List UInt8} (h : Reads s xs s')
    (h' : Reads s' ys s'') : Reads s (xs ++ ys) s'' := by
  induction h' with
  | refl => rwa [List.append_nil]
  | step n _ ih => rw [← List.append_assoc]; exact ih.step n

/-- A single read is one such stretch. -/
theorem Reads.one {n : Nat} {s s' : Source} {answer : Except Fault (List UInt8)}
    (h : read n s = (answer, s')) : Reads s (handedOut answer) s' := by
  have := (Reads.refl s).step n
  rwa [h] at this

/-- **A source hands out its data in order.** What a read hands out stood in front of what is
    left. -/
theorem bytes_read (n : Nat) (s : Source) :
    s.bytes = handedOut (read n s).1 ++ (read n s).2.bytes := by
  obtain ⟨steps, reads⟩ := s
  match steps with
  | [] => rfl
  | .stop :: steps => rfl
  | .fail fault :: steps => rfl
  | .data [] :: steps => rfl
  | .data (b :: bs) :: steps =>
    by_cases hle : (b :: bs).length ≤ n
    · rw [read_data_of_le (List.cons_ne_nil b bs) hle]
      rfl
    · rw [read_data_of_lt (Nat.lt_of_not_le hle)]
      simp only [bytes, handedOut, List.flatMap_cons, Step.bytes, ← List.append_assoc,
        List.take_append_drop]

/-- What was read and what is left make up all bytes. -/
theorem Reads.bytes_eq {s s' : Source} {bytes : List UInt8} (h : Reads s bytes s') :
    s.bytes = bytes ++ s'.bytes := by
  induction h with
  | refl => rfl
  | @step s' taken n _ ih => rw [List.append_assoc, ← bytes_read, ih]

/-- No more is handed out than is asked for. -/
theorem length_handedOut_le (n : Nat) (s : Source) : (handedOut (read n s).1).length ≤ n := by
  obtain ⟨steps, reads⟩ := s
  match steps with
  | [] => exact Nat.zero_le n
  | .stop :: steps => exact Nat.zero_le n
  | .fail fault :: steps => exact Nat.zero_le n
  | .data [] :: steps => exact Nat.zero_le n
  | .data (b :: bs) :: steps =>
    by_cases hle : (b :: bs).length ≤ n
    · rw [read_data_of_le (List.cons_ne_nil b bs) hle]
      exact hle
    · rw [read_data_of_lt (Nat.lt_of_not_le hle)]
      exact List.length_take_le n (b :: bs)

/-- A read of one byte hands out one byte, if any. -/
theorem tail_eq_nil_of_read_one {s s' : Source} {b : UInt8} {tail : List UInt8}
    (h : read 1 s = (.ok (b :: tail), s')) : tail = [] := by
  have hlen := length_handedOut_le 1 s
  rw [h] at hlen
  exact List.eq_nil_of_length_eq_zero (by simpa [handedOut] using hlen)

end Source

namespace Newline.UnifyingReader

/-! ### One call -/

/-- `r` has become `r'` by taking `taken` from its source and letting out `out`. -/
structure Relays (r : UnifyingReader Source) (taken out : List UInt8)
    (r' : UnifyingReader Source) : Prop where
  reads : Source.Reads r.inner taken r'.inner
  out_eq : out = emit r.afterCR taken
  flag_eq : r'.afterCR = flagAfter r.afterCR taken

variable {r r' r'' : UnifyingReader Source} {inner : Source} {taken out : List UInt8} {n : Nat}

/-- A reader that is not called takes nothing and hands out nothing. -/
theorem Relays.refl (r : UnifyingReader Source) : Relays r [] [] r :=
  ⟨.refl _, rfl, rfl⟩

/-- What two stretches of calls relay is relayed by both together. -/
theorem Relays.trans {taken' out' : List UInt8} (h : Relays r taken out r')
    (h' : Relays r' taken' out' r'') : Relays r (taken ++ taken') (out ++ out') r'' where
  reads := h.reads.trans h'.reads
  out_eq := by rw [emit_append, ← h.flag_eq, ← h.out_eq, ← h'.out_eq]
  flag_eq := by rw [flagAfter_append, ← h.flag_eq, ← h'.flag_eq]

/-- A chunk taken from the source. -/
theorem Relays.take {chunk : List UInt8} (h : Reader.read n r.inner = (.ok chunk, inner)) :
    Relays r chunk (emit r.afterCR chunk) ⟨inner, flagAfter r.afterCR chunk⟩ :=
  ⟨.one h, rfl, rfl⟩

/-- A read of the source that fails. -/
theorem Relays.fail {fault : Fault} (h : Reader.read n r.inner = (.error fault, inner)) :
    Relays r [] [] ⟨inner, r.afterCR⟩ :=
  ⟨.one h, rfl, rfl⟩

/-- A single byte taken from the source. -/
theorem Relays.byte {b : UInt8} {tail : List UInt8}
    (h : Reader.read 1 r.inner = (.ok (b :: tail), inner)) :
    Relays r [b] (step r.afterCR b).1.toList ⟨inner, (step r.afterCR b).2⟩ := by
  obtain rfl := Source.tail_eq_nil_of_read_one h
  have := Relays.take h
  rwa [emit_cons, emit_nil, List.append_nil] at this

/-- The bytes that a call of `next` returns. -/
def byteOut : Except Fault (Option UInt8) → List UInt8
  | .ok byte? => byte?.toList
  | .error _ => []

/-- Asking for the next byte relays what it takes. -/
theorem next_relays (r : UnifyingReader Source) :
    ∃ taken, Relays r taken (byteOut r.next.1) r.next.2 := by
  fun_induction next r with
  | case1 r inner hread => exact ⟨[], .take hread⟩
  | case2 r b tail inner hread _ out flag hstep =>
    have h := Relays.byte hread
    rw [hstep] at h
    exact ⟨[b], h⟩
  | case3 r b tail inner hread _ flag hstep ih =>
    have h := Relays.byte hread
    rw [hstep] at h
    obtain ⟨taken, ih⟩ := ih
    exact ⟨[b] ++ taken, h.trans ih⟩
  | case4 r fault inner hread _ _ ih =>
    obtain ⟨taken, ih⟩ := ih
    exact ⟨[] ++ taken, (Relays.fail hread).trans ih⟩
  | case5 r fault inner hread => exact ⟨[], .fail hread⟩

/-- So does reading a chunk. -/
theorem readSome_relays (hn : 0 < n) (r : UnifyingReader Source) :
    ∃ taken, Relays r taken (Source.handedOut (readSome n hn r).1) (readSome n hn r).2 := by
  fun_induction readSome n hn r with
  | case1 r inner hread => exact ⟨[], .take hread⟩
  | case2 r b bs inner hread _ flag hcompact ih =>
    obtain ⟨hout, rfl⟩ := Prod.mk.inj ((compact_eq _ _).symm.trans hcompact)
    obtain ⟨taken, ih⟩ := ih
    have h := Relays.take hread
    rw [hout] at h
    exact ⟨b :: bs ++ taken, h.trans ih⟩
  | case3 r b bs inner hread _ o os flag hcompact =>
    obtain ⟨hout, rfl⟩ := Prod.mk.inj ((compact_eq _ _).symm.trans hcompact)
    have h := Relays.take hread
    rw [hout] at h
    exact ⟨b :: bs, h⟩
  | case4 r fault inner hread => exact ⟨[], .fail hread⟩

/-! ### Runs of calls -/

/-- A call on the reader: for the next byte, or for a chunk of at most `n` bytes. -/
inductive Call
  | next
  | read (n : Nat)
deriving Repr

/-- Make a call: the bytes that it returns, none at an end or a fault, and the reader after it. -/
def Call.perform : Call → UnifyingReader Source → List UInt8 × UnifyingReader Source
  | .next, r => (byteOut r.next.1, r.next.2)
  | .read n, r => (Source.handedOut (r.read n).1, (r.read n).2)

/-- Make some calls one after the other: all bytes that they return, and the reader after them. -/
def run : List Call → UnifyingReader Source → List UInt8 × UnifyingReader Source
  | [], r => ([], r)
  | call :: calls, r =>
    ((call.perform r).1 ++ (run calls (call.perform r).2).1, (run calls (call.perform r).2).2)

/-- **One call.** Whether it asks for a byte or for a chunk, and whatever it meets. -/
theorem perform_relays (call : Call) (r : UnifyingReader Source) :
    ∃ taken, Relays r taken (call.perform r).1 (call.perform r).2 := by
  cases call with
  | next => exact next_relays r
  | read n =>
    by_cases hn : 0 < n
    · rw [Call.perform, UnifyingReader.read, dif_pos hn]
      exact readSome_relays hn r
    · rw [Call.perform, UnifyingReader.read, dif_neg hn]
      exact ⟨[], .refl r⟩

/-- **Any run of calls.** -/
theorem run_relays (calls : List Call) (r : UnifyingReader Source) :
    ∃ taken, Relays r taken (run calls r).1 (run calls r).2 := by
  induction calls generalizing r with
  | nil => exact ⟨[], .refl r⟩
  | cons call calls ih =>
    obtain ⟨taken, h⟩ := perform_relays call r
    obtain ⟨taken', h'⟩ := ih (call.perform r).2
    exact ⟨taken ++ taken', h.trans h'⟩

/-! ### Pulling everything byte by byte -/

/-- A read of one byte after the source has handed out the byte `b`. -/
theorem read_one_of_byte {b : UInt8} {tail : List UInt8}
    (h : Reader.read 1 r.inner = (.ok (b :: tail), inner)) :
    Reader.read 1 r = match step r.afterCR b with
      | (some out, flag) => (.ok [out], ⟨inner, flag⟩)
      | (none, flag) => Reader.read 1 (⟨inner, flag⟩ : UnifyingReader Source) := by
  obtain rfl := Source.tail_eq_nil_of_read_one h
  have hflag : flagAfter r.afterCR [b] = (step r.afterCR b).2 := rfl
  rw [read_of_chunk Nat.one_pos h (List.cons_ne_nil b []), emit_cons, emit_nil, List.append_nil,
    hflag]
  rcases step r.afterCR b with ⟨_ | out, flag⟩ <;> rfl

/-- A drain in chunks of one byte begins like a call of `next`. -/
theorem drain_one {α : Type} (f : α → List UInt8 → α) (a : α) (r : UnifyingReader Source) :
    Reader.drain 1 Nat.one_pos f a r = match r.next with
      | (.ok none, r') => ⟨a, none, r'⟩
      | (.ok (some b), r') => Reader.drain 1 Nat.one_pos f (f a [b]) r'
      | (.error fault, r') => ⟨a, some fault, r'⟩ := by
  fun_induction next r with
  | case1 r inner hread => exact Reader.drain_of_end (read_of_end Nat.one_pos hread)
  | case2 r b tail inner hread _ out flag hstep =>
    have hone := read_one_of_byte hread
    rw [hstep] at hone
    exact Reader.drain_of_chunk hone (List.cons_ne_nil out [])
  | case3 r b tail inner hread _ flag hstep ih =>
    have hone := read_one_of_byte hread
    rw [hstep] at hone
    rw [Reader.drain_congr hone, ih]
  | case4 r fault inner hread _ he ih =>
    rw [Reader.drain_of_interrupted (read_of_fault Nat.one_pos hread) he, ih]
  | case5 r fault inner hread _ he =>
    exact Reader.drain_of_fault (read_of_fault Nat.one_pos hread) (by simpa using he)

/-- **Byte by byte is a drain.** -/
theorem pullOnto_eq_drain (seen : List UInt8) (r : UnifyingReader Source) :
    pullOnto seen r = Reader.drain 1 Nat.one_pos (· ++ ·) seen.reverse r := by
  fun_induction pullOnto seen r with
  | case1 seen r r' hnext => rw [drain_one, hnext]
  | case2 seen r b r' hnext _ ih => rw [drain_one, hnext, ih, List.reverse_cons]
  | case3 seen r fault r' hnext => rw [drain_one, hnext]

/-- Pulling a script byte by byte lets out its content with the line breaks collapsed. -/
theorem pullAll_wrap (s : Source) :
    pullAll (wrap s) = ⟨collapse (Script.content s.steps), Script.fault? s.steps,
      ⟨⟨Script.rest s.steps, s.reads + Script.reads 1 s.steps⟩,
        flagAfter false (Script.content s.steps)⟩⟩ := by
  rw [pullAll, pullOnto_eq_drain, Source.drain_wrap _ Reader.seamless_append]
  rfl

/-- Reading a script in chunks lets out the same. -/
theorem readToEnd_wrap (s : Source) :
    Reader.readToEnd (wrap s) = ⟨collapse (Script.content s.steps), Script.fault? s.steps,
      ⟨⟨Script.rest s.steps, s.reads + Script.reads Reader.chunkSize s.steps⟩,
        flagAfter false (Script.content s.steps)⟩⟩ := by
  rw [Reader.readToEnd, Source.drain_wrap Reader.chunkSize_pos Reader.seamless_reverse,
    List.append_nil, List.reverse_reverse]

/-! ### Nothing is lost, doubled, moved or changed -/

/-- **Faithful reading.** After any run of calls on a source of any shape, what was returned is
    `collapse` of the bytes that the source has handed out, which are those that it does not hold
    any more, and the flag tells whether the last of them was a CR.  The calls made so far are a
    run themselves, so this holds at every point of a longer one.  Two runs that have taken the
    same bytes from a source have returned the same, and pulling everything byte by byte gives the
    same as reading it in chunks, up to the same end or fault. -/
theorem run_returns_collapse (s : Source) (calls : List Call) :
    (∃ consumed, Source.Reads s consumed (run calls (wrap s)).2.inner ∧
      s.bytes = consumed ++ (run calls (wrap s)).2.inner.bytes ∧
      (run calls (wrap s)).1 = collapse consumed ∧
      ((run calls (wrap s)).2.afterCR = true ↔ consumed.getLast? = some cr)) ∧
    (∀ calls', (run calls' (wrap s)).2.inner.bytes = (run calls (wrap s)).2.inner.bytes →
      (run calls' (wrap s)).1 = (run calls (wrap s)).1) ∧
    (pullAll (wrap s)).value = (Reader.readToEnd (wrap s)).value ∧
    (pullAll (wrap s)).fault = (Reader.readToEnd (wrap s)).fault ∧
    (pullAll (wrap s)).rest.inner.steps = (Reader.readToEnd (wrap s)).rest.inner.steps := by
  obtain ⟨consumed, h⟩ := run_relays calls (wrap s)
  have hbytes := h.reads.bytes_eq
  have hout : (run calls (wrap s)).1 = collapse consumed := by rw [h.out_eq, ← emit_false]; rfl
  refine ⟨⟨consumed, h.reads, hbytes, hout, ?_⟩, ?_, ?_⟩
  · rw [h.flag_eq, ← flagAfter_eq_true_iff]
    rfl
  · intro calls' hleft
    obtain ⟨consumed', h'⟩ := run_relays calls' (wrap s)
    -- the source is the same, so if the same is left the same has been taken
    have heq : consumed' ++ (run calls (wrap s)).2.inner.bytes
        = consumed ++ (run calls (wrap s)).2.inner.bytes := by
      rw [← hleft, ← h'.reads.bytes_eq, hleft, ← hbytes]
    rw [hout, h'.out_eq, List.append_cancel_right heq, ← emit_false]
    rfl
  · have hpull : (pullAll (wrap s)).rest.inner.steps = Script.rest s.steps := by rw [pullAll_wrap]
    have hread : (Reader.readToEnd (wrap s)).rest.inner.steps = Script.rest s.steps := by
      rw [readToEnd_wrap]
    refine ⟨?_, ?_, hpull.trans hread.symm⟩
    · rw [pullAll_wrap, readToEnd_wrap]
    · rw [pullAll_wrap, readToEnd_wrap]

end Newline.UnifyingReader

end ContentChecksum
