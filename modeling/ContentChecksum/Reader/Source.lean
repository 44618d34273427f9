import ContentChecksum.Reader.Basic

/-!
# Scripted sources

A `Source` is a finite script of what each read finds: a piece of data, a fault, or an end.  It
counts the reads made on it.  A file, a text in memory and the standard input are sources of one
piece; scripts with faults and ends in the middle stand for pipes and sockets.
-/

namespace ContentChecksum

/-- One step of a source's script. -/
inductive Step
  | data (bytes : List UInt8)
  | fail (fault : Fault)
  | stop
deriving Repr

/-- Number of bytes that a step holds. -/
def Step.size : Step → Nat
  | .data bytes => bytes.length
  | _ => 0

/-- The steps still to come, and the number of reads made so far. -/
structure Source where
  steps : List Step
  reads : Nat
deriving Repr

namespace Source

/-- A source that follows a script from its start. -/
def ofSteps (steps : List Step) : Source :=
  ⟨steps, 0⟩

/-- A source that holds the given bytes and then ends. -/
def ofBytes (bytes : List UInt8) : Source :=
  ofSteps [.data bytes]

/-- A source on which the first read fails. -/
def ofFault (fault : Fault) : Source :=
  ofSteps [.fail fault]

/-- Number of data bytes in all remaining steps. -/
def left (s : Source) : Nat :=
  s.steps.foldr (fun step rest => step.size + rest) 0

/-- Hand out up to `n` bytes of the first step, never crossing into the next one.  A step is gone
once it is used up; past the last step every read finds an end.  An empty piece of data is an end
too. -/
def read (n : Nat) (s : Source) : Except Fault (List UInt8) × Source :=
  match s.steps with
  | [] => (.ok [], ⟨[], s.reads + 1⟩)
  | .stop :: rest => (.ok [], ⟨rest, s.reads + 1⟩)
  | .fail fault :: rest => (.error fault, ⟨rest, s.reads + 1⟩)
  | .data [] :: rest => (.ok [], ⟨rest, s.reads + 1⟩)
  | .data (b :: bs) :: rest =>
    match (b :: bs).drop n with
    | [] => (.ok ((b :: bs).take n), ⟨rest, s.reads + 1⟩)
    | b' :: bs' => (.ok ((b :: bs).take n), ⟨.data (b' :: bs') :: rest, s.reads + 1⟩)

/-- Every step counts for one read, and every byte for one more. -/
def remaining (s : Source) : Nat :=
  s.left + s.steps.length

/-- Only an end leaves as much as there was. -/
theorem remaining_read_lt {n : Nat} {s : Source} (hn : 0 < n) (h : (read n s).1 ≠ .ok []) :
    remaining (read n s).2 < remaining s := by
  obtain ⟨steps, reads⟩ := s
  match steps with
  | [] => simp [read] at h
  | .stop :: rest => simp [read] at h
  | .data [] :: rest => simp [read] at h
  | .fail fault :: rest => simp [read, remaining, left, Step.size]
  | .data (b :: bs) :: rest =>
    simp only [read]
    split
    · simp [remaining, left, Step.size]; omega
    · rename_i b' bs' hd
      have := congrArg List.length hd
      simp only [List.length_drop, List.length_cons] at this
      simp [remaining, left, Step.size]; omega

instance : Reader Source where
  read := read
  remaining := remaining
  remaining_read_lt := remaining_read_lt

end Source

end ContentChecksum
