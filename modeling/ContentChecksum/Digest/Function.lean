/-!
# Hash functions, fed piece by piece

A `HashFunction` is given bytes in pieces of any size and then asked for its digest.  Its laws say
that only the concatenation of the pieces counts (`update_append`) and that every digest has the
same length.

The two functions of this library cut their input into blocks of 64 bytes.  `BlockHash` holds
what is particular to one of them, and `BlockHash.function` is the common engine: whole blocks go
through the compression function as they fill up, and the end of the message is framed by a one
bit, zero bits and the length of the message in bits.
-/

namespace ContentChecksum

/-- A hash function with its running state. -/
structure HashFunction where
  State : Type
  start : State
  update : State → List UInt8 → State
  finish : State → List UInt8
  /-- Number of bytes in a digest. -/
  digestSize : Nat
  update_nil : ∀ s, update s [] = s
  update_append : ∀ s xs ys, update s (xs ++ ys) = update (update s xs) ys
  length_finish : ∀ s, (finish s).length = digestSize

/-- The digest of a whole message. -/
def HashFunction.digest (h : HashFunction) (message : List UInt8) : List UInt8 :=
  h.finish (h.update h.start message)

/-! ### Hash functions that work in blocks of 64 bytes -/

/-- What makes one block hash differ from another: a chaining value, the compression of one block
into it, how the length of the message is written into eight bytes, and how the last chaining
value is written out. -/
structure BlockHash where
  Chain : Type
  start : Chain
  compress : Chain → Array UInt8 → Chain
  writeLength : UInt64 → List UInt8
  output : Chain → List UInt8
  outputSize : Nat
  length_output : ∀ c, (output c).length = outputSize

namespace BlockHash

/-- The chaining value after the full blocks, the bytes of the block that is not full yet, and the
number of bytes seen so far. -/
structure Progress (h : BlockHash) where
  chain : h.Chain
  pending : Array UInt8
  count : Nat

variable {h : BlockHash}

/-- Take in one byte; the sixty-fourth byte of a block sends the block through the compression. -/
def Progress.absorb (p : Progress h) (b : UInt8) : Progress h :=
  let block := p.pending.push b
  if block.size = 64 then
    { chain := h.compress p.chain block, pending := Array.mkEmpty 64, count := p.count + 1 }
  else
    { chain := p.chain, pending := block, count := p.count + 1 }

/-- Take in a piece of the message. -/
def Progress.update (p : Progress h) (piece : List UInt8) : Progress h :=
  piece.foldl Progress.absorb p

/-- The bytes that close a message: a one bit, the fewest zero bits that fill all but the last
eight bytes of a block, and the length of the message in bits. -/
def closing (h : BlockHash) (count : Nat) : List UInt8 :=
  0x80 :: List.replicate ((119 - count % 64) % 64) 0 ++ h.writeLength (8 * UInt64.ofNat count)

/-- The digest of all that was taken in. -/
def Progress.finish (p : Progress h) : List UInt8 :=
  h.output (p.update (h.closing p.count)).chain

/-- Taking in two pieces is taking in both at once. -/
theorem Progress.update_append (p : Progress h) (xs ys : List UInt8) :
    p.update (xs ++ ys) = (p.update xs).update ys := by
  simp [Progress.update]

/-- Nothing is pending and nothing has been counted before the first byte. -/
def Progress.initial (h : BlockHash) : Progress h :=
  { chain := h.start, pending := Array.mkEmpty 64, count := 0 }

/-- The hash function that a block hash describes. -/
def function (h : BlockHash) : HashFunction where
  State := Progress h
  start := Progress.initial h
  update := Progress.update
  finish := Progress.finish
  digestSize := h.outputSize
  update_nil _ := rfl
  update_append := Progress.update_append
  length_finish _ := h.length_output _

end BlockHash

/-! ### Words inside blocks -/

/-- Four bytes as a word, the low byte first. -/
def wordOfLow (b₀ b₁ b₂ b₃ : UInt8) : UInt32 :=
  b₀.toUInt32 ||| (b₁.toUInt32 <<< 8) ||| (b₂.toUInt32 <<< 16) ||| (b₃.toUInt32 <<< 24)

/-- A word as four bytes, the low byte first. -/
def bytesOfWord (w : UInt32) : List UInt8 :=
  [w.toUInt8, (w >>> 8).toUInt8, (w >>> 16).toUInt8, (w >>> 24).toUInt8]

/-- A length as eight bytes, the low byte first. -/
def bytesOfLength (n : UInt64) : List UInt8 :=
  [n.toUInt8, (n >>> 8).toUInt8, (n >>> 16).toUInt8, (n >>> 24).toUInt8,
    (n >>> 32).toUInt8, (n >>> 40).toUInt8, (n >>> 48).toUInt8, (n >>> 56).toUInt8]

/-- The word turned left by `k` bits, for `k` between 1 and 31. -/
def rotateLeft (w : UInt32) (k : UInt32) : UInt32 :=
  (w <<< k) ||| (w >>> (32 - k))

end ContentChecksum
