/-!
# Line breaks in bytes

In a stream of bytes there is no looking ahead, so one flag remembers whether the byte before was a
CR.  `step` is the move for one byte: a CR goes out as LF at once, and the LF that may follow it is
swallowed.  `emit` runs `step` along a list of bytes.

`Compaction` does the same inside one buffer.  The write position never overtakes the read position,
so each byte is read before its place is used again.
-/

namespace ContentChecksum.Newline

def cr : UInt8 := 0x0d

def lf : UInt8 := 0x0a

/-- The move for one byte: what goes out, if anything, and whether the byte was a CR. -/
def step (afterCR : Bool) (b : UInt8) : Option UInt8 × Bool :=
  if b = cr then (some lf, true)
  else if b = lf ∧ afterCR = true then (none, false)
  else (some b, false)

/-- What goes out for a list of bytes. -/
def emit (afterCR : Bool) : List UInt8 → List UInt8
  | [] => []
  | b :: rest => (step afterCR b).1.toList ++ emit (step afterCR b).2 rest

/-- The flag after a list of bytes. -/
def flagAfter (afterCR : Bool) (bytes : List UInt8) : Bool :=
  bytes.foldl (fun flag b => (step flag b).2) afterCR

/-! ### Compacting a buffer -/

/-- A compaction under way: the buffer, the place of the next byte to read, the place of the next
byte to write, and whether the last byte read was a CR. -/
structure Compaction where
  buffer : Array UInt8
  position : Nat
  written : Nat
  afterCR : Bool
deriving Repr

namespace Compaction

/-- Before the first byte. -/
def start (buffer : Array UInt8) (afterCR : Bool) : Compaction :=
  ⟨buffer, 0, 0, afterCR⟩

/-- Read one byte, and write what goes out for it. -/
def advance : Compaction → Compaction
  | ⟨buffer, position, written, afterCR⟩ =>
    match step afterCR (buffer.getD position 0) with
    | (some out, flag) => ⟨buffer.setIfInBounds written out, position + 1, written + 1, flag⟩
    | (none, flag) => ⟨buffer, position + 1, written, flag⟩

/-- Read `n` bytes one after the other. -/
def run : Nat → Compaction → Compaction
  | 0, w => w
  | n + 1, w => run n w.advance

/-- The bytes written so far. -/
def output (w : Compaction) : List UInt8 :=
  (w.buffer.extract 0 w.written).toList

end Compaction

/-- Compact a chunk in place: what goes out for it, and the flag after it. -/
def compact (afterCR : Bool) (chunk : List UInt8) : List UInt8 × Bool :=
  let buffer := chunk.toArray
  let w := Compaction.run buffer.size (Compaction.start buffer afterCR)
  (w.output, w.afterCR)

end ContentChecksum.Newline
