import ContentChecksum.Proofs.InnerReads

namespace ContentChecksum

/-!
# Where a source stands between two bytes

A `UnifyingReader` that is asked byte by byte holds nothing back and does not look ahead.  Whenever a
call has returned a byte, the source can be taken out and stands right behind the byte of its own that
the returned one was made of: if that was the CR of a pair, the LF has not been read.

* `Script.behind` — the steps of a script behind its first bytes.  Reads leave a source there, but for
  ends and faults that they have met since (`Source.Reads.exists_behind`), and a read that hands out
  bytes leaves it exactly there (`Source.Reads.steps_eq_behind`);
* `Newline.Reaches` — the shortest front of some data for which a given number of bytes goes out.
  There is one at most (`Newline.Reaches.unique`);
* `Newline.UnifyingReader.exists_byte_of_next` — a call that returns a byte has swallowed bytes first, if
  any, and then read the one that it returns;
* `Newline.UnifyingReader.next_never_reads_ahead` — what follows for any number of calls.
-/

/-! ### The steps behind some bytes -/

namespace Script

/-- The steps behind the first `n` bytes of a script.  A piece in which these bytes end has lost its
    front; the ends and faults in front of the last of them are gone, the others are still to come. -/
def behind (n : Nat) : List Step → List Step
  | [] => []
  | step :: steps =>
    if n = 0 then step :: steps
    else if step.bytes.length < n then behind (n - step.bytes.length) steps
    else if step.bytes.length = n then steps
    else .data (step.bytes.drop n) :: steps

variable {step : Step} {steps : List Step} {n : Nat}

@[simp] theorem behind_zero (steps : List Step) : behind 0 steps = steps := by
  cases steps with
  | nil => rfl
  | cons step steps => rw [behind, if_pos rfl]

/-- A step that is used up before is passed. -/
theorem behind_cons_of_lt (h : step.bytes.length < n) :
    behind n (step :: steps) = behind (n - step.bytes.length) steps := by
  rw [behind, if_neg (Nat.ne_of_gt (Nat.zero_lt_of_lt h)), if_pos h]

/-- Nothing is left of a step that is used up just so. -/
theorem behind_cons_of_eq (hn : n ≠ 0) (h : step.bytes.length = n) :
    behind n (step :: steps) = steps := by
  rw [behind, if_neg hn, if_neg (Nat.not_lt.2 (Nat.le_of_eq h.symm)), if_pos h]

/-- What is left of a piece that holds more. -/
theorem behind_cons_of_gt (hn : n ≠ 0) (h : n < step.bytes.length) :
    behind n (step :: steps) = .data (step.bytes.drop n) :: steps := by
  rw [behind, if_neg hn, if_neg (Nat.lt_asymm h), if_neg (Nat.ne_of_gt h)]

/-- Some bytes, and then some more. -/
theorem behind_add (m n : Nat) (steps : List Step) :
    behind (m + n) steps = behind n (behind m steps) := by
  by_cases hn : n = 0
  · rw [hn, Nat.add_zero, behind_zero]
  · by_cases hm : m = 0
    · rw [hm, Nat.zero_add, behind_zero]
    · induction steps generalizing m with
      | nil => rfl
      | cons step steps ih =>
        rcases Nat.lt_trichotomy step.bytes.length m with hlt | heq | hgt
        · rw [behind_cons_of_lt hlt, behind_cons_of_lt (by omega), ← ih _ (by omega)]
          congr 1
          omega
        · rw [behind_cons_of_eq hm heq, behind_cons_of_lt (by omega), heq, Nat.add_sub_cancel_left]
        · -- the bytes end in the same piece, or go beyond it
          have hleft : (Step.data (step.bytes.drop m)).bytes.length = step.bytes.length - m :=
            List.length_drop
          rw [behind_cons_of_gt hm hgt]
          rcases Nat.lt_trichotomy step.bytes.length (m + n) with hlt' | heq' | hgt'
          · rw [behind_cons_of_lt hlt', behind_cons_of_lt (by omega), hleft]
            congr 1
            omega
          · rw [behind_cons_of_eq (by omega) heq', behind_cons_of_eq hn (by omega)]
          · rw [behind_cons_of_gt (by omega) hgt', behind_cons_of_gt hn (by omega)]
            simp only [Step.bytes, List.drop_drop]

/-- Ends and faults do not count. -/
theorem behind_append_of_empty {empties : List Step} (h : ∀ step ∈ empties, step.bytes = [])
    (hn : n ≠ 0) : behind n (empties ++ steps) = behind n steps := by
  induction empties with
  | nil => rfl
  | cons step empties ih =>
    rw [List.forall_mem_cons] at h
    have hnone : step.bytes.length = 0 := by rw [h.1]; rfl
    rw [List.cons_append, behind_cons_of_lt (by omega), hnone, Nat.sub_zero, ih h.2]

end Script

namespace Source

variable {n : Nat} {s s' s'' : Source} {bytes : List UInt8}

/-- A read that hands out bytes leaves what is behind them. -/
theorem steps_read_of_chunk {b : UInt8} {bs : List UInt8} (h : read n s = (.ok (b :: bs), s')) :
    s'.steps = Script.behind (b :: bs).length s.steps := by
  obtain ⟨steps, reads⟩ := s
  match steps with
  | [] | .stop :: steps | .fail fault :: steps | .data [] :: steps => cases h
  | .data (c :: cs) :: steps =>
    by_cases hle : (c :: cs).length ≤ n
    · rw [read_data_of_le (List.cons_ne_nil c cs) hle] at h
      obtain ⟨hchunk, rfl⟩ := Prod.mk.inj h
      have hlength : (Step.data (c :: cs)).bytes.length = (b :: bs).length :=
        congrArg List.length (Except.ok.inj hchunk)
      exact (Script.behind_cons_of_eq (Nat.succ_ne_zero _) hlength).symm
    · have hlt := Nat.lt_of_not_le hle
      rw [read_data_of_lt hlt] at h
      obtain ⟨hchunk, rfl⟩ := Prod.mk.inj h
      have hlength : (b :: bs).length = n := by
        rw [← Except.ok.inj hchunk, List.length_take, Nat.min_eq_left (Nat.le_of_lt hlt)]
      have hn : n ≠ 0 := hlength ▸ Nat.succ_ne_zero _
      have hbytes : n < (Step.data (c :: cs)).bytes.length := hlt
      rw [hlength]
      exact (Script.behind_cons_of_gt hn hbytes).symm

/-- A read that hands out nothing uses up an end or a fault, if anything. -/
theorem steps_read_of_nothing (h : handedOut (read n s).1 = []) :
    ∃ empties, (∀ step ∈ empties, step.bytes = []) ∧ s.steps = empties ++ (read n s).2.steps := by
  obtain ⟨steps, reads⟩ := s
  match steps with
  | [] => exact ⟨[], nofun, rfl⟩
  | .stop :: steps => exact ⟨[.stop], by simp [Step.bytes], rfl⟩
  | .fail fault :: steps => exact ⟨[.fail fault], by simp [Step.bytes], rfl⟩
  | .data [] :: steps => exact ⟨[.data []], by simp [Step.bytes], rfl⟩
  | .data (c :: cs) :: steps =>
    by_cases hle : (c :: cs).length ≤ n
    · rw [read_data_of_le (List.cons_ne_nil c cs) hle] at h
      cases h
    · -- nothing is handed out of a piece only if nothing is asked for
      rw [read_data_of_lt (Nat.lt_of_not_le hle)] at h ⊢
      obtain rfl : n = 0 := by simpa [handedOut] using h
      exact ⟨[], nofun, rfl⟩

/-- **Reads, in the script.** They leave a source behind the bytes that they handed out, past some of the
    ends and faults that come next. -/
theorem Reads.exists_behind (h : Reads s bytes s') :
    ∃ empties, (∀ step ∈ empties, step.bytes = []) ∧
      Script.behind bytes.length s.steps = empties ++ s'.steps := by
  induction h with
  | refl => exact ⟨[], nofun, Script.behind_zero _⟩
  | @step s' bytes n _ ih =>
    obtain ⟨empties, hempties, ih⟩ := ih
    rw [List.length_append, Script.behind_add, ih]
    by_cases hnone : handedOut (read n s').1 = []
    · obtain ⟨more, hmore, hsteps⟩ := steps_read_of_nothing hnone
      refine ⟨empties ++ more, List.forall_mem_append.2 ⟨hempties, hmore⟩, ?_⟩
      rw [hnone, List.append_assoc, ← hsteps]
      exact Script.behind_zero _
    · rcases hread : read n s' with ⟨fault | _ | ⟨b, bs⟩, s''⟩
      · exact absurd (by rw [hread]; rfl) hnone
      · exact absurd (by rw [hread]; rfl) hnone
      · refine ⟨[], nofun, ?_⟩
        rw [handedOut, Script.behind_append_of_empty hempties (by simp), List.nil_append,
          steps_read_of_chunk hread]

/-- A read that hands out bytes leaves the source exactly behind the last of them. -/
theorem Reads.steps_eq_behind (h : Reads s bytes s') {b : UInt8} {bs : List UInt8}
    (hread : read n s' = (.ok (b :: bs), s'')) :
    s''.steps = Script.behind (bytes ++ b :: bs).length s.steps := by
  obtain ⟨empties, hempties, hbehind⟩ := h.exists_behind
  rw [List.length_append, Script.behind_add, hbehind,
    Script.behind_append_of_empty hempties (by simp), steps_read_of_chunk hread]

end Source

/-! ### How many bytes must be read -/

namespace Newline

/-- The shortest front of `data` that is `k` bytes long once its line breaks are collapsed. -/
structure Reaches (data : List UInt8) (k : Nat) (front : List UInt8) : Prop where
  isPrefix : front <+: data
  length_eq : (collapse front).length = k
  length_le : ∀ other, other <+: data → (collapse other).length = k → front.length ≤ other.length

variable {data front front' : List UInt8} {k : Nat}

/-- There is only one shortest front. -/
theorem Reaches.unique (h : Reaches data k front) (h' : Reaches data k front') : front = front' := by
  have hle := h.length_le front' h'.isPrefix h'.length_eq
  have hge := h'.length_le front h.isPrefix h.length_eq
  have hprefix := List.prefix_of_prefix_length_le h.isPrefix h'.isPrefix hle
  exact hprefix.eq_of_length_le hge

/-- Of a front no more goes out than of the whole. -/
theorem length_collapse_le (h : front <+: data) :
    (collapse front).length ≤ (collapse data).length := by
  obtain ⟨rest, rfl⟩ := h
  rw [← emit_false, ← emit_false, emit_append, List.length_append]
  exact Nat.le_add_right _ _

/-- Data that end in a byte of which something goes out cannot be shorter. -/
theorem reaches_concat {rest : List UInt8} {b out : UInt8} (hdata : data = front ++ b :: rest)
    (hout : (step (flagAfter false front) b).1 = some out) :
    Reaches data ((collapse front).length + 1) (front ++ [b]) where
  isPrefix := by rw [hdata, List.append_cons front b rest]; exact List.prefix_append _ _
  length_eq := by
    rw [← emit_false, ← emit_false, emit_append, emit_cons, hout]
    simp
  length_le other hother hlength := by
    -- whatever is not longer than the front in front of the byte lets no more out than that does
    rw [List.length_append, List.length_singleton]
    refine Nat.lt_of_not_le fun hshort => ?_
    have hprefix : other <+: front :=
      List.prefix_of_prefix_length_le hother (hdata ▸ List.prefix_append _ _) hshort
    have hfew := length_collapse_le hprefix
    omega

namespace UnifyingReader

/-! ### Asking for the next byte, again and again -/

/-- The byte that a call has returned, if it met neither an end nor a fault. -/
def byte? : Except Fault (Option UInt8) → Option UInt8
  | .ok answer => answer
  | .error _ => none

/-- Ask for the next byte `n` times: what the calls have returned, and the reader after them. -/
def pulls (r : UnifyingReader Source) : Nat → List (Option UInt8) × UnifyingReader Source
  | 0 => ([], r)
  | n + 1 => ((pulls r n).1 ++ [byte? (pulls r n).2.next.1], (pulls r n).2.next.2)

/-- Calls for the next byte on a new reader of `s`, of which `k` have returned a byte and the latest has
    returned `out`, leave the reader `r`. -/
def Pulled (s : Source) (k : Nat) (out : UInt8) (r : UnifyingReader Source) : Prop :=
  ∃ n, (pulls (wrap s) n).1.countP Option.isSome = k ∧
    (pulls (wrap s) n).1.getLast? = some (some out) ∧ (pulls (wrap s) n).2 = r

variable {s : Source} {r : UnifyingReader Source} {k : Nat} {out : UInt8}

/-- A byte that is answered is what is handed out. -/
theorem toList_byte? (answer : Except Fault (Option UInt8)) :
    (byte? answer).toList = byteOut answer := by
  cases answer <;> rfl

/-- A byte is answered neither at an end nor at a fault. -/
theorem byte?_eq_some_iff {answer : Except Fault (Option UInt8)} :
    byte? answer = some out ↔ answer = .ok (some out) := by
  cases answer <;> simp [byte?]

/-- There are as many bytes as calls that have returned one. -/
theorem countP_isSome (answers : List (Option UInt8)) :
    answers.countP Option.isSome = (answers.flatMap Option.toList).length := by
  induction answers with
  | nil => rfl
  | cons answer answers ih =>
    rw [List.countP_cons, List.flatMap_cons, List.length_append, ih]
    cases answer <;> simp [Nat.add_comm]

/-- However many calls there are, what goes out for the bytes taken is what they have returned. -/
theorem pulls_relays (r : UnifyingReader Source) (n : Nat) :
    ∃ taken, Relays r taken ((pulls r n).1.flatMap Option.toList) (pulls r n).2 := by
  induction n with
  | zero => exact ⟨[], .refl r⟩
  | succ n ih =>
    obtain ⟨taken, ih⟩ := ih
    obtain ⟨taken', h⟩ := next_relays (pulls r n).2
    refine ⟨taken ++ taken', ?_⟩
    rw [pulls, List.flatMap_append, List.flatMap_singleton, toList_byte?]
    exact ih.trans h

/-- **A call that returns a byte.** The last byte that it has read is the one that it returns something
    for.  What it has read before went out as nothing. -/
theorem exists_byte_of_next (h : r.next.1 = .ok (some out)) :
    ∃ swallowed before b, Relays r swallowed [] before ∧
      Source.read 1 before.inner = (.ok [b], r.next.2.inner) ∧
      (step before.afterCR b).1 = some out := by
  fun_induction next r with
  | case1 => cases h
  | case2 r b tail inner hread _ out' flag hstep =>
    obtain rfl := Source.tail_eq_nil_of_read_one hread
    obtain rfl : out' = out := by simpa using h
    exact ⟨[], r, b, .refl r, hread, by rw [hstep]⟩
  | case3 r b tail inner hread _ flag hstep ih =>
    have hbyte := Relays.byte hread
    rw [hstep] at hbyte
    obtain ⟨swallowed, before, b', hrelays, hrest⟩ := ih h
    exact ⟨[b] ++ swallowed, before, b', hbyte.trans hrelays, hrest⟩
  | case4 r fault inner hread _ _ ih =>
    obtain ⟨swallowed, before, b', hrelays, hrest⟩ := ih h
    exact ⟨[] ++ swallowed, before, b', (Relays.fail hread).trans hrelays, hrest⟩
  | case5 => cases h

/-- **The byte behind the latest answer.** All that was taken is a front, of which the answers before went
    out, and the byte that the latest answer was made of.  Nothing has been read since. -/
theorem Pulled.exists_byte (h : Pulled s k out r) :
    ∃ front b, Source.Reads s (front ++ [b]) r.inner ∧
      r.inner.steps = Script.behind (front.length + 1) s.steps ∧
      k = (collapse front).length + 1 ∧ (step (flagAfter false front) b).1 = some out := by
  obtain ⟨n, rfl, hlast, rfl⟩ := h
  cases n with
  | zero => cases hlast
  | succ n =>
    rw [pulls, List.getLast?_concat, Option.some_inj] at hlast
    have hanswer := byte?_eq_some_iff.1 hlast
    -- the calls before the latest one relay a front, and the latest one swallows up to `b`
    obtain ⟨taken, hbefore⟩ := pulls_relays (wrap s) n
    obtain ⟨swallowed, before, b, hswallowed, hread, hstep⟩ := exists_byte_of_next hanswer
    have hrelays := hbefore.trans hswallowed
    refine ⟨taken ++ swallowed, b, hrelays.reads.trans (.one hread), ?_, ?_, ?_⟩
    · have hsteps := hrelays.reads.steps_eq_behind hread
      rwa [List.length_append, List.length_singleton] at hsteps
    · have hout := hrelays.out_eq
      rw [List.append_nil] at hout
      rw [← emit_false, pulls, countP_isSome, List.flatMap_append, List.flatMap_singleton, hout,
        hlast, List.length_append]
      rfl
    · rwa [hrelays.flag_eq] at hstep

/-- **No reading ahead.** Let `k` calls for the next byte have returned one, the latest `out`, whatever
    ends and faults the calls in between have met.  What they have taken is the shortest front of the
    data that comes to `k` bytes once its line breaks are collapsed.  It ends in the byte that `out`
    was made of, and the source stands exactly behind it: what comes next in the script is still to
    come, an LF as well if that byte is the CR in front of it.  Any other script of the same data, with
    whatever ends and faults, is left with the same data after as many bytes. -/
theorem next_never_reads_ahead (h : Pulled s k out r) :
    ∃ front b, Reaches s.bytes k (front ++ [b]) ∧
      Source.Reads s (front ++ [b]) r.inner ∧ s.bytes = front ++ b :: r.inner.bytes ∧
      r.inner.steps = Script.behind (front.length + 1) s.steps ∧
      (step (flagAfter false front) b).1 = some out ∧
      (∀ rest, s.bytes = front ++ cr :: lf :: rest → r.inner.bytes = lf :: rest) ∧
      ∀ s' out' r', s'.bytes = s.bytes → Pulled s' k out' r' →
        r'.inner.bytes = r.inner.bytes ∧ out' = out := by
  obtain ⟨front, b, hreads, hsteps, rfl, hout⟩ := h.exists_byte
  have hbytes : s.bytes = front ++ b :: r.inner.bytes := by
    rw [hreads.bytes_eq, List.append_assoc, List.singleton_append]
  have hreaches := reaches_concat hbytes hout
  refine ⟨front, b, hreaches, hreads, hbytes, hsteps, hout, fun rest hpair => ?_, ?_⟩
  · have hsame := List.append_cancel_left (hbytes.symm.trans hpair)
    exact (List.cons.inj hsame).2
  · intro s' out' r' hdata h'
    obtain ⟨front', b', hreads', -, hk, hout'⟩ := h'.exists_byte
    have hbytes' : s.bytes = front' ++ b' :: r'.inner.bytes := by
      rw [← hdata, hreads'.bytes_eq, List.append_assoc, List.singleton_append]
    -- both have taken the shortest front, so it is the same
    have hfront := hreaches.unique (hk ▸ reaches_concat hbytes' hout')
    obtain ⟨rfl, hb⟩ := List.append_inj' hfront rfl
    obtain rfl : b = b' := by simpa using hb
    have hsame := List.append_cancel_left (hbytes'.symm.trans hbytes)
    exact ⟨(List.cons.inj hsame).2, Option.some.inj (hout'.symm.trans hout)⟩

/-- The CR of a pair, and the byte behind the pair after a fault. -/
theorem source_between_cr_and_lf :
    let s : Source := .ofSteps [.data [0x61, cr], .fail ⟨.interrupted, ""⟩, .data [lf],
      .fail ⟨.timedOut, ""⟩, .data [0x62, 0x63]]
    let whole : Source := .ofBytes [0x61, cr, lf, 0x62, 0x63]
    (Pulled s 2 lf (pulls (wrap s) 2).2 ∧ (pulls (wrap s) 2).2.inner.bytes = [lf, 0x62, 0x63]) ∧
      Pulled whole 3 0x62 (pulls (wrap whole) 3).2 ∧ Pulled s 3 0x62 (pulls (wrap s) 4).2 ∧
        (pulls (wrap s) 4).2.inner.bytes = (pulls (wrap whole) 3).2.inner.bytes := by
  intro s whole
  have hcr : Pulled s 2 lf (pulls (wrap s) 2).2 := ⟨2, by decide +kernel, by decide +kernel, rfl⟩
  have hwhole : Pulled whole 3 0x62 (pulls (wrap whole) 3).2 :=
    ⟨3, by decide +kernel, by decide +kernel, rfl⟩
  have hbehind : Pulled s 3 0x62 (pulls (wrap s) 4).2 := ⟨4, by decide +kernel, by decide +kernel, rfl⟩
  refine ⟨⟨hcr, ?_⟩, hwhole, hbehind, ?_⟩
  · obtain ⟨front, b, hreaches, -, hbytes, -, -, hunread, -⟩ := next_never_reads_ahead hcr
    have hdata : s.bytes = [0x61] ++ cr :: [lf, 0x62, 0x63] := rfl
    have hpair : Reaches s.bytes 2 ([0x61] ++ [cr]) := reaches_concat hdata rfl
    obtain ⟨rfl, -⟩ := List.append_inj' (hreaches.unique hpair) rfl
    exact hunread [0x62, 0x63] rfl
  · obtain ⟨-, -, -, -, -, -, -, -, halike⟩ := next_never_reads_ahead hwhole
    exact (halike s _ _ rfl hbehind).1

end UnifyingReader

end Newline

end ContentChecksum
