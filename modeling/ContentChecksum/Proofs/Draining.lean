import ContentChecksum.Newline.Reader
import ContentChecksum.Proofs.LineBreaks
import ContentChecksum.Reader.Source

namespace ContentChecksum

/-!
# Draining a reader

What `Reader.drain` answers is said here without its loop.

* `Script` — a script is cut at the first step that a drain does not get past: an end, or a fault
  that is not an interruption.  `Script.content` is the data before the cut, `Script.fault?` the
  fault at it, `Script.rest` what comes after it;
* `Seamless` — a way of folding chunks together that does not see where they were cut;
* `drain_source` — a drain with a seamless fold sees nothing of a script but these three, whatever
  size the chunks are asked in;
* `drain_unifying` — draining a `UnifyingReader`, whose reads may pull again on their own, is one
  drain of the wrapped reader that carries the flag along.
-/

/-! ### What a script amounts to -/

/-- The bytes that a step holds. -/
def Step.bytes : Step → List UInt8
  | .data bytes => bytes
  | _ => []

/-- Whether a drain gets past a step: past a piece of data with bytes in it, and past an
    interruption. -/
def Step.passes : Step → Bool
  | .data bytes => !bytes.isEmpty
  | .fail fault => fault.isInterrupted
  | .stop => false

/-- The number of reads of at most `n` bytes that it takes to get past a step. -/
def Step.reads (n : Nat) : Step → Nat
  | .data bytes => (bytes.length + n - 1) / n
  | _ => 1

namespace Script

/-- All data before the first end, or before the fault that comes earlier. -/
def content (steps : List Step) : List UInt8 :=
  (steps.takeWhile Step.passes).flatMap Step.bytes

/-- The first fault that is not an interruption, if it comes before the first end. -/
def fault? (steps : List Step) : Option Fault :=
  match steps.find? (!·.passes) with
  | some (.fail fault) => some fault
  | _ => none

/-- The steps behind that end or fault. -/
def rest (steps : List Step) : List Step :=
  (steps.dropWhile Step.passes).drop 1

/-- The number of reads of at most `n` bytes up to that end or fault. -/
def reads (n : Nat) (steps : List Step) : Nat :=
  (steps.takeWhile Step.passes).foldr (fun step rest => step.reads n + rest) 1

variable {step : Step} {steps : List Step}

/-- The data of a step that is passed belongs to the content. -/
theorem content_cons_of_passes (h : step.passes = true) :
    content (step :: steps) = step.bytes ++ content steps := by
  rw [content, List.takeWhile_cons_of_pos h, List.flatMap_cons]
  rfl

/-- Nothing behind an end or a fault does. -/
theorem content_cons_of_not_passes (h : step.passes = false) : content (step :: steps) = [] := by
  rw [content, List.takeWhile_cons_of_neg (by simp [h]), List.flatMap_nil]

/-- Whether a fault cuts a script is told behind the steps that are passed. -/
theorem fault?_cons_of_passes (h : step.passes = true) :
    fault? (step :: steps) = fault? steps := by
  rw [fault?, List.find?_cons_of_neg (by simp [h])]
  rfl

/-- Bytes in one piece are all content. -/
theorem content_data (bytes : List UInt8) : content [.data bytes] = bytes := by
  cases bytes with
  | nil => rfl
  | cons b bs =>
    rw [content_cons_of_passes rfl]
    exact List.append_nil _

theorem fault?_data (bytes : List UInt8) : fault? [.data bytes] = none := by
  cases bytes <;> rfl

/-- What is left of a script is left behind the steps that are passed. -/
theorem rest_cons_of_passes (h : step.passes = true) : rest (step :: steps) = rest steps := by
  rw [rest, List.dropWhile_cons_of_pos h]
  rfl

/-- An end or a fault is used up itself. -/
theorem rest_cons_of_not_passes (h : step.passes = false) : rest (step :: steps) = steps := by
  rw [rest, List.dropWhile_cons_of_neg (by simp [h]), List.drop_one, List.tail_cons]

/-- A step that is passed takes its own reads, and the steps behind it take theirs. -/
theorem reads_cons_of_passes (n : Nat) (h : step.passes = true) :
    reads n (step :: steps) = step.reads n + reads n steps := by
  rw [reads, List.takeWhile_cons_of_pos h, List.foldr_cons]
  rfl

/-- An end or a fault takes one read. -/
theorem reads_cons_of_not_passes (n : Nat) (h : step.passes = false) :
    reads n (step :: steps) = 1 := by
  rw [reads, List.takeWhile_cons_of_neg (by simp [h]), List.foldr_nil]

end Script

/-! ### One turn of the loop -/

namespace Reader

variable {ρ α : Type} [Reader ρ] {n : Nat} {hn : 0 < n} {f : α → List UInt8 → α} {a : α} {r r' : ρ}

/-- A drain is over at an end. -/
theorem drain_of_end (h : read n r = (.ok [], r')) : drain n hn f a r = ⟨a, none, r'⟩ := by
  rw [drain]
  split <;> simp_all

/-- It goes on behind a chunk, which has been folded in. -/
theorem drain_of_chunk {chunk : List UInt8} (h : read n r = (.ok chunk, r')) (hne : chunk ≠ []) :
    drain n hn f a r = drain n hn f (f a chunk) r' := by
  rw [drain]
  split <;> simp_all

/-- It goes on behind an interruption, as if there had been none. -/
theorem drain_of_interrupted {e : Fault} (h : read n r = (.error e, r'))
    (he : e.isInterrupted = true) : drain n hn f a r = drain n hn f a r' := by
  rw [drain]
  split <;> simp_all

/-- It is over at any other fault, and answers that. -/
theorem drain_of_fault {e : Fault} (h : read n r = (.error e, r'))
    (he : e.isInterrupted = false) : drain n hn f a r = ⟨a, some e, r'⟩ := by
  rw [drain]
  split <;> simp_all

/-- Two readers that answer the next read alike are drained alike. -/
theorem drain_congr {r₁ r₂ : ρ} (h : read n r₁ = read n r₂) :
    drain n hn f a r₁ = drain n hn f a r₂ := by
  rcases hread : read n r₂ with ⟨e | chunk, r'⟩
  · cases he : e.isInterrupted with
    | true => rw [drain_of_interrupted (h.trans hread) he, drain_of_interrupted hread he]
    | false => rw [drain_of_fault (h.trans hread) he, drain_of_fault hread he]
  · by_cases hne : chunk = []
    · subst hne
      rw [drain_of_end (h.trans hread), drain_of_end hread]
    · rw [drain_of_chunk (h.trans hread) hne, drain_of_chunk hread hne]

/-- A way of folding chunks together that does not see where they were cut. -/
structure Seamless (f : α → List UInt8 → α) : Prop where
  nil : ∀ a, f a [] = a
  append : ∀ a xs ys, f a (xs ++ ys) = f (f a xs) ys

/-- Collecting all bytes is one. -/
theorem seamless_append : Seamless ((· ++ ·) : List UInt8 → List UInt8 → List UInt8) where
  nil := List.append_nil
  append a xs ys := (List.append_assoc a xs ys).symm

/-- So is collecting them backwards, as `readToEnd` does. -/
theorem seamless_reverse :
    Seamless fun (seen chunk : List UInt8) => chunk.reverse ++ seen where
  nil _ := rfl
  append a xs ys := by rw [List.reverse_append, List.append_assoc]

end Reader

/-! ### Draining a script -/

namespace Source

open Reader

/-- A piece that fits is handed out whole. -/
theorem read_data_of_le {n : Nat} {bytes : List UInt8} {steps : List Step} {reads : Nat}
    (hne : bytes ≠ []) (hle : bytes.length ≤ n) :
    read n ⟨.data bytes :: steps, reads⟩ = (.ok bytes, ⟨steps, reads + 1⟩) := by
  obtain ⟨b, bs, rfl⟩ := List.exists_cons_of_ne_nil hne
  have hdrop : (b :: bs).drop n = [] := List.drop_of_length_le hle
  simp only [read, hdrop, List.take_of_length_le hle]

/-- Of a piece that does not fit the first `n` bytes are handed out. -/
theorem read_data_of_lt {n : Nat} {bytes : List UInt8} {steps : List Step} {reads : Nat}
    (hlt : n < bytes.length) :
    read n ⟨.data bytes :: steps, reads⟩
      = (.ok (bytes.take n), ⟨.data (bytes.drop n) :: steps, reads + 1⟩) := by
  obtain ⟨b, bs, rfl⟩ := List.exists_cons_of_length_pos (Nat.zero_lt_of_lt hlt)
  have hne : (b :: bs).drop n ≠ [] := fun h => by
    have := List.drop_eq_nil_iff.mp h
    omega
  obtain ⟨b', bs', hdrop⟩ := List.exists_cons_of_ne_nil hne
  simp only [read, hdrop]

variable {α : Type} {n : Nat} (hn : 0 < n) {f : α → List UInt8 → α}

/-- **A piece of data.** However small the chunks are that it is drained in, it is folded in as if
    it had come in one. -/
theorem drain_data (hf : Seamless f) (a : α) {bytes : List UInt8} (hne : bytes ≠ [])
    (steps : List Step) (reads : Nat) :
    drain n hn f a (⟨.data bytes :: steps, reads⟩ : Source)
      = drain n hn f (f a bytes) ⟨steps, reads + (bytes.length + n - 1) / n⟩ := by
  induction h : bytes.length using Nat.strongRecOn generalizing a bytes reads with
  | _ len ih =>
    subst h
    by_cases hle : bytes.length ≤ n
    · -- one read takes it all
      have hpos := List.length_pos_iff.mpr hne
      have hone : (bytes.length + n - 1) / n = 1 := by
        rw [Nat.div_eq_iff hn]; omega
      rw [drain_of_chunk (read_data_of_le hne hle) hne, hone]
    · -- the first read takes `n` bytes, and the rest is drained in the same way
      have hlt : n < bytes.length := Nat.lt_of_not_le hle
      have htake : bytes.take n ≠ [] := by simp [hne]; omega
      have hdrop : bytes.drop n ≠ [] := by simp; omega
      have hlen : (bytes.drop n).length < bytes.length := by rw [List.length_drop]; omega
      have hcount : (bytes.length + n - 1) / n = 1 + ((bytes.drop n).length + n - 1) / n := by
        rw [List.length_drop, show bytes.length + n - 1 = (bytes.length - n + n - 1) + n by omega,
          Nat.add_div_right _ hn]
        omega
      rw [drain_of_chunk (read_data_of_lt hlt) htake, ih _ hlen (f a (bytes.take n)) hdrop _ rfl,
        ← hf.append, List.take_append_drop, hcount, Nat.add_assoc]

/-- **Draining a script.** A seamless fold sees the content as if it had come in one piece, and the
    drain stops behind the first end or fault. -/
theorem drain_source (hf : Seamless f) (a : α) (s : Source) :
    drain n hn f a s = ⟨f a (Script.content s.steps), Script.fault? s.steps,
      ⟨Script.rest s.steps, s.reads + Script.reads n s.steps⟩⟩ := by
  obtain ⟨steps, reads⟩ := s
  induction steps generalizing a reads with
  | nil =>
    have hread : Reader.read n (⟨[], reads⟩ : Source) = (.ok [], ⟨[], reads + 1⟩) := rfl
    rw [drain_of_end hread]
    simp [Script.content, Script.fault?, Script.rest, Script.reads, hf.nil]
  | cons step steps ih =>
    by_cases hp : step.passes = true
    · rw [Script.content_cons_of_passes hp, Script.fault?_cons_of_passes hp,
        Script.rest_cons_of_passes hp, Script.reads_cons_of_passes n hp, hf.append,
        ← Nat.add_assoc, ← ih]
      -- data that is passed is not empty, and a fault that is passed is an interruption
      match step with
      | .data (b :: bs) => exact drain_data hn hf a (List.cons_ne_nil b bs) steps reads
      | .fail fault =>
        have hread : Reader.read n (⟨.fail fault :: steps, reads⟩ : Source)
          = (.error fault, ⟨steps, reads + 1⟩) := rfl
        rw [drain_of_interrupted hread hp]
        simp [Step.bytes, Step.reads, hf.nil]
    · have hp : step.passes = false := by simpa using hp
      rw [Script.content_cons_of_not_passes hp, Script.rest_cons_of_not_passes hp,
        Script.reads_cons_of_not_passes n hp, hf.nil]
      match step with
      | .stop => exact drain_of_end rfl
      | .data [] => exact drain_of_end rfl
      | .fail fault =>
        have hread : Reader.read n (⟨.fail fault :: steps, reads⟩ : Source)
          = (.error fault, ⟨steps, reads + 1⟩) := rfl
        rw [drain_of_fault hread hp]
        simp [Script.fault?, hp]

end Source

/-! ### Draining a reader that unifies line breaks -/

namespace Newline.UnifyingReader

variable {ρ α : Type} [Reader ρ] {n : Nat} (hn : 0 < n) {r : UnifyingReader ρ} {inner : ρ}

include hn

/-- An end of the inner reader is one of the wrapped reader. -/
theorem read_of_end (h : Reader.read n r.inner = (.ok [], inner)) :
    Reader.read n r = (.ok [], ⟨inner, r.afterCR⟩) := by
  show UnifyingReader.read n r = _
  rw [UnifyingReader.read, dif_pos hn, readSome]
  split <;> simp_all

/-- So is a fault, and the flag stays for what comes behind it. -/
theorem read_of_fault {e : Fault} (h : Reader.read n r.inner = (.error e, inner)) :
    Reader.read n r = (.error e, ⟨inner, r.afterCR⟩) := by
  show UnifyingReader.read n r = _
  rw [UnifyingReader.read, dif_pos hn, readSome]
  split <;> simp_all

/-- A chunk of which something goes out ends the read; one that is swallowed whole makes it begin
    again. -/
theorem read_of_chunk {chunk : List UInt8} (h : Reader.read n r.inner = (.ok chunk, inner))
    (hne : chunk ≠ []) :
    Reader.read n r = if emit r.afterCR chunk = [] then
        Reader.read n (⟨inner, flagAfter r.afterCR chunk⟩ : UnifyingReader ρ)
      else (.ok (emit r.afterCR chunk), ⟨inner, flagAfter r.afterCR chunk⟩) := by
  show UnifyingReader.read n r = if _ then UnifyingReader.read n _ else _
  rw [UnifyingReader.read, UnifyingReader.read, dif_pos hn, dif_pos hn, readSome]
  split
  · simp_all
  · rename_i b bs inner' hread
    obtain ⟨rfl, rfl⟩ : chunk = b :: bs ∧ inner = inner' := by simpa [h] using hread
    rw [compact_eq]
    split
    · rename_i flag heq
      obtain ⟨hout, rfl⟩ := Prod.mk.inj heq
      exact (if_pos hout).symm
    · rename_i o os flag heq
      obtain ⟨hout, rfl⟩ := Prod.mk.inj heq
      rw [hout, if_neg (List.cons_ne_nil o os)]
  · simp_all

/-- The fold `f` fed with what goes out for the chunks, beside the flag. -/
def through (f : α → List UInt8 → α) : α × Bool → List UInt8 → α × Bool :=
  fun (a, flag) chunk => (f a (emit flag chunk), flagAfter flag chunk)

omit hn [Reader ρ] in
/-- Unifying line breaks on the way into a fold does not show where chunks are cut. -/
theorem through_seamless {f : α → List UInt8 → α} (hf : Reader.Seamless f) :
    Reader.Seamless (through f) where
  nil a := by rw [through, emit_nil, hf.nil, flagAfter_nil]
  append a xs ys := by
    simp only [through, emit_append, flagAfter_append, hf.append]

/-- **One loop instead of two.** Draining a reader that unifies line breaks is draining the wrapped
    reader with the flag carried along. -/
theorem drain_unifying {f : α → List UInt8 → α} (hf : ∀ a, f a [] = a) (p : α × Bool) (inner : ρ) :
    Reader.drain n hn f p.1 (⟨inner, p.2⟩ : UnifyingReader ρ) =
      let d := Reader.drain n hn (through f) p inner
      ⟨d.value.1, d.fault, ⟨d.rest, d.value.2⟩⟩ := by
  fun_induction Reader.drain n hn (through f) p inner with
  | case1 p inner inner' hread => exact Reader.drain_of_end (read_of_end hn hread)
  | case2 p inner b bs inner' hread hlt ih =>
    rw [← ih]
    have hchunk := read_of_chunk (r := ⟨inner, p.2⟩) hn hread (List.cons_ne_nil b bs)
    by_cases hout : emit p.2 (b :: bs) = []
    · rw [if_pos hout] at hchunk
      rw [Reader.drain_congr hchunk]
      simp only [through, hout, hf]
    · rw [if_neg hout] at hchunk
      exact Reader.drain_of_chunk hchunk hout
  | case3 p inner fault inner' hread hlt he ih =>
    rw [← ih]
    exact Reader.drain_of_interrupted (read_of_fault hn hread) he
  | case4 p inner fault inner' hread hlt he =>
    exact Reader.drain_of_fault (read_of_fault hn hread) (by simpa using he)

end Newline.UnifyingReader

/-- **Draining a script with its line breaks unified.** The wrapped source is left as a drain
    without unifying leaves it, and the fold sees what goes out for the content, with the flag that
    the reader had. -/
theorem Newline.UnifyingReader.drain_eq {α : Type} {n : Nat} (hn : 0 < n)
    {f : α → List UInt8 → α} (hf : Reader.Seamless f) (a : α) (r : UnifyingReader Source) :
    Reader.drain n hn f a r =
      ⟨f a (emit r.afterCR (Script.content r.inner.steps)), Script.fault? r.inner.steps,
        ⟨⟨Script.rest r.inner.steps, r.inner.reads + Script.reads n r.inner.steps⟩,
          flagAfter r.afterCR (Script.content r.inner.steps)⟩⟩ := by
  have h := drain_unifying hn hf.nil (a, r.afterCR) r.inner
  rw [Source.drain_source hn (through_seamless hf)] at h
  exact h

/-- From the start of a script the fold sees the content with its line breaks collapsed. -/
theorem Source.drain_wrap {α : Type} {n : Nat} (hn : 0 < n) {f : α → List UInt8 → α}
    (hf : Reader.Seamless f) (a : α) (s : Source) :
    Reader.drain n hn f a (Newline.UnifyingReader.wrap s) =
      ⟨f a (Newline.collapse (Script.content s.steps)), Script.fault? s.steps,
        ⟨⟨Script.rest s.steps, s.reads + Script.reads n s.steps⟩,
          Newline.flagAfter false (Script.content s.steps)⟩⟩ := by
  rw [← Newline.emit_false]
  exact Newline.UnifyingReader.drain_eq hn hf a (.wrap s)

end ContentChecksum
