import ContentChecksum.Newline.Bytes
import ContentChecksum.Reader.Basic

/-!
# Unifying line breaks while reading

`UnifyingReader` wraps a reader and hands out its bytes with every line break written as LF.  Its
only state is the flag of `Newline.step`; no byte is held back, so the wrapped reader can be taken
out again at any point.  It may be read byte by byte or in chunks, in any mixture.
-/

namespace ContentChecksum.Newline

/-- A reader seen through `Newline.step`. -/
structure UnifyingReader (ρ : Type) where
  inner : ρ
  afterCR : Bool

namespace UnifyingReader

variable {ρ : Type}

/-- Wrap a reader at the start of a stream. -/
def wrap (inner : ρ) : UnifyingReader ρ :=
  ⟨inner, false⟩

variable [Reader ρ]

/-- The next byte that goes out, or `none` at an end of the wrapped reader.  Interrupted reads are
tried again. -/
def next (r : UnifyingReader ρ) : Except Fault (Option UInt8) × UnifyingReader ρ :=
  match h : Reader.read 1 r.inner with
  | (.ok [], inner) => (.ok none, ⟨inner, r.afterCR⟩)
  | (.ok (b :: _), inner) =>
    have := Reader.remaining_lt_of_chunk Nat.one_pos h
    match step r.afterCR b with
    | (some out, flag) => (.ok (some out), ⟨inner, flag⟩)
    | (none, flag) => next ⟨inner, flag⟩
  | (.error fault, inner) =>
    have := Reader.remaining_lt_of_fault Nat.one_pos h
    if fault.isInterrupted then next ⟨inner, r.afterCR⟩ else (.error fault, ⟨inner, r.afterCR⟩)
termination_by Reader.remaining r.inner

/-- Read chunks of at most `n` bytes until one of them lets something out.  A chunk that holds only
a swallowed LF must not look like an end. -/
def readSome (n : Nat) (hn : 0 < n) (r : UnifyingReader ρ) :
    Except Fault (List UInt8) × UnifyingReader ρ :=
  match h : Reader.read n r.inner with
  | (.ok [], inner) => (.ok [], ⟨inner, r.afterCR⟩)
  | (.ok (b :: bs), inner) =>
    have := Reader.remaining_lt_of_chunk hn h
    match compact r.afterCR (b :: bs) with
    | ([], flag) => readSome n hn ⟨inner, flag⟩
    | (o :: os, flag) => (.ok (o :: os), ⟨inner, flag⟩)
  | (.error fault, inner) => (.error fault, ⟨inner, r.afterCR⟩)
termination_by Reader.remaining r.inner

/-- Hand out at most `n` bytes.  Nothing is read from the wrapped reader when none are asked for. -/
def read (n : Nat) (r : UnifyingReader ρ) : Except Fault (List UInt8) × UnifyingReader ρ :=
  if hn : 0 < n then readSome n hn r else (.ok [], r)

/-- A read that gets anything leaves less to be read. -/
theorem remaining_readSome_lt {n : Nat} (hn : 0 < n) (r : UnifyingReader ρ)
    (h : (readSome n hn r).1 ≠ .ok []) :
    Reader.remaining (readSome n hn r).2.inner < Reader.remaining r.inner := by
  fun_induction readSome n hn r with
  | case1 => simp at h
  | case2 r b bs inner hread hlt flag hrw ih => exact Nat.lt_trans (ih h) hlt
  | case3 r b bs inner hread hlt o os flag hrw => exact hlt
  | case4 r fault inner hread => exact Reader.remaining_lt_of_fault hn hread

instance : Reader (UnifyingReader ρ) where
  read := read
  remaining r := Reader.remaining r.inner
  remaining_read_lt := by
    intro n r hn h
    simp only [read, hn, ↓reduceDIte] at h ⊢
    exact remaining_readSome_lt hn r h

/-! ### Taking everything byte by byte -/

/-- So does the next byte, if there is one. -/
theorem remaining_next_lt (r : UnifyingReader ρ) (h : (next r).1 ≠ .ok none) :
    Reader.remaining (next r).2.inner < Reader.remaining r.inner := by
  fun_induction next r with
  | case1 => simp at h
  | case2 r b bs inner hread hlt out flag hstep => exact hlt
  | case3 r b bs inner hread hlt flag hstep ih => exact Nat.lt_trans (ih h) hlt
  | case4 r fault inner hread hlt hi ih => exact Nat.lt_trans (ih h) hlt
  | case5 r fault inner hread hlt hi => exact hlt

/-- The loop of `pullAll`: what came so far is kept back to front. -/
def pullOnto (seen : List UInt8) (r : UnifyingReader ρ) :
    Reader.Drained (List UInt8) (UnifyingReader ρ) :=
  match h : next r with
  | (.ok none, r') => ⟨seen.reverse, none, r'⟩
  | (.ok (some b), r') =>
    have : Reader.remaining r'.inner < Reader.remaining r.inner := by
      have := remaining_next_lt r (by rw [h]; simp)
      rwa [h] at this
    pullOnto (b :: seen) r'
  | (.error fault, r') => ⟨seen.reverse, some fault, r'⟩
termination_by Reader.remaining r.inner

/-- All bytes up to the next end, or up to the fault that stopped the reading, by `next` alone. -/
def pullAll (r : UnifyingReader ρ) : Reader.Drained (List UInt8) (UnifyingReader ρ) :=
  pullOnto [] r

end UnifyingReader

end ContentChecksum.Newline
