/-!
# Readers

A reader hands out the bytes of some source, at most as many as it is asked for.  An answer of no
bytes means an end; a failure is a `Fault`.  An *interrupted* read is a fault that says nothing
about the source, and whoever drains a reader asks again after it.

Every reader carries a measure of what it can still answer (`Reader.remaining`), which shrinks with
each answer that is not an end.  So `Reader.drain` stops by itself on every reader.
-/

namespace ContentChecksum

/-! ### Faults -/

/-- What went wrong with an input or output operation, as far as a program can act on it. -/
inductive Fault.Kind
  | interrupted
  | brokenPipe
  | unexpectedEof
  | other
  | invalidData
  | invalidInput
  | timedOut
  | wouldBlock
  | permissionDenied
  | connectionReset
  | notFound
  | isADirectory
  | notADirectory
  | alreadyExists
  | invalidFilename
deriving DecidableEq, Repr

/-- A failed input or output operation: its kind and the words for it. -/
structure Fault where
  kind : Fault.Kind
  message : String
deriving DecidableEq, Repr

/-- Whether the operation was merely interrupted and may be tried again. -/
def Fault.isInterrupted (f : Fault) : Bool :=
  f.kind = .interrupted

/-! ### The class of readers -/

/-- A source of bytes that is read in chunks.  `read n` hands out at most `n` bytes, and none only
at an end. -/
class Reader (ρ : Type) where
  read : Nat → ρ → Except Fault (List UInt8) × ρ
  remaining : ρ → Nat
  remaining_read_lt : ∀ {n : Nat} {r : ρ}, 0 < n → (read n r).1 ≠ .ok [] →
    remaining (read n r).2 < remaining r

namespace Reader

variable {ρ : Type} [Reader ρ]

/-- A read that hands out data leaves less to be read. -/
theorem remaining_lt_of_chunk {n : Nat} {r r' : ρ} {b : UInt8} {bs : List UInt8} (hn : 0 < n)
    (h : read n r = (.ok (b :: bs), r')) : remaining r' < remaining r := by
  have := remaining_read_lt (r := r) hn (by rw [h]; simp)
  rwa [h] at this

/-- So does one that fails. -/
theorem remaining_lt_of_fault {n : Nat} {r r' : ρ} {f : Fault} (hn : 0 < n)
    (h : read n r = (.error f, r')) : remaining r' < remaining r := by
  have := remaining_read_lt (r := r) hn (by rw [h]; simp)
  rwa [h] at this

/-! ### Draining a reader -/

/-- What came of reading up to an end: the chunks folded together, the fault that stopped the
reading early, if one did, and the reader as it was left. -/
structure Drained (α ρ : Type) where
  value : α
  fault : Option Fault
  rest : ρ

/-- Read chunks of at most `n` bytes up to the next end and fold them together.  Interrupted reads
are tried again; any other fault stops the reading. -/
def drain {α : Type} (n : Nat) (hn : 0 < n) (f : α → List UInt8 → α) (a : α) (r : ρ) :
    Drained α ρ :=
  match h : read n r with
  | (.ok [], r') => ⟨a, none, r'⟩
  | (.ok (b :: bs), r') =>
    have := remaining_lt_of_chunk hn h
    drain n hn f (f a (b :: bs)) r'
  | (.error e, r') =>
    have := remaining_lt_of_fault hn h
    if e.isInterrupted then drain n hn f a r' else ⟨a, some e, r'⟩
termination_by remaining r

/-- How many bytes are asked for at once when a whole source is read. -/
def chunkSize : Nat := 65536

theorem chunkSize_pos : 0 < chunkSize := by decide

/-- All bytes up to the next end, or up to the fault that stopped the reading. -/
def readToEnd (r : ρ) : Drained (List UInt8) ρ :=
  let d := drain chunkSize chunkSize_pos (fun seen chunk => chunk.reverse ++ seen) [] r
  { d with value := d.value.reverse }

end Reader

end ContentChecksum
