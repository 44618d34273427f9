import ContentChecksum.Digest.Function

/-!
# SHA-256

A second hash function for the digest of bytes.  A block is read as sixteen words, high byte first,
which are stretched to sixty-four; one round for each stirs it into eight chaining words; the length
of the message is written high byte first.
-/

namespace ContentChecksum.SHA256

/-- The eight chaining words. -/
structure Chain where
  a : UInt32
  b : UInt32
  c : UInt32
  d : UInt32
  e : UInt32
  f : UInt32
  g : UInt32
  h : UInt32
deriving DecidableEq

/-- The chaining words before the first block. -/
def start : Chain :=
  ⟨0x6a09e667, 0xbb67ae85, 0x3c6ef372, 0xa54ff53a, 0x510e527f, 0x9b05688c, 0x1f83d9ab, 0x5be0cd19⟩

/-- The added constant of each round: the first 32 bits of the fractional part of the cube root of
each of the first sixty-four primes. -/
def roots : Array UInt32 := #[
  0x428a2f98, 0x71374491, 0xb5c0fbcf, 0xe9b5dba5, 0x3956c25b, 0x59f111f1, 0x923f82a4, 0xab1c5ed5,
  0xd807aa98, 0x12835b01, 0x243185be, 0x550c7dc3, 0x72be5d74, 0x80deb1fe, 0x9bdc06a7, 0xc19bf174,
  0xe49b69c1, 0xefbe4786, 0x0fc19dc6, 0x240ca1cc, 0x2de92c6f, 0x4a7484aa, 0x5cb0a9dc, 0x76f988da,
  0x983e5152, 0xa831c66d, 0xb00327c8, 0xbf597fc7, 0xc6e00bf3, 0xd5a79147, 0x06ca6351, 0x14292967,
  0x27b70a85, 0x2e1b2138, 0x4d2c6dfc, 0x53380d13, 0x650a7354, 0x766a0abb, 0x81c2c92e, 0x92722c85,
  0xa2bfe8a1, 0xa81a664b, 0xc24b8b70, 0xc76c51a3, 0xd192e819, 0xd6990624, 0xf40e3585, 0x106aa070,
  0x19a4c116, 0x1e376c08, 0x2748774c, 0x34b0bcb5, 0x391c0cb3, 0x4ed8aa4a, 0x5b9cca4f, 0x682e6ff3,
  0x748f82ee, 0x78a5636f, 0x84c87814, 0x8cc70208, 0x90befffa, 0xa4506ceb, 0xbef9a3f7, 0xc67178f2]

/-- The word turned right by `k` bits, for `k` between 1 and 31. -/
def rotateRight (w : UInt32) (k : UInt32) : UInt32 :=
  rotateLeft w (32 - k)

/-- One more word of the stretched message, made from the words sixteen, fifteen, seven and two
places back. -/
def stretch (words : Array UInt32) : Array UInt32 :=
  let i := words.size
  let old := words.getD (i - 15) 0
  let new := words.getD (i - 2) 0
  let s₀ := rotateRight old 7 ^^^ rotateRight old 18 ^^^ (old >>> 3)
  let s₁ := rotateRight new 17 ^^^ rotateRight new 19 ^^^ (new >>> 10)
  words.push (words.getD (i - 16) 0 + s₀ + words.getD (i - 7) 0 + s₁)

/-- The sixty-four words of a block. -/
def schedule (block : Array UInt8) : Array UInt32 :=
  let words := (Array.range 16).map fun i =>
    wordOfLow (block.getD (4 * i + 3) 0) (block.getD (4 * i + 2) 0) (block.getD (4 * i + 1) 0)
      (block.getD (4 * i) 0)
  (List.range 48).foldl (fun ws _ => stretch ws) words

/-- One round: stir one stretched word into the chaining words. -/
def step (words : Array UInt32) (s : Chain) (i : Nat) : Chain :=
  let s₁ := rotateRight s.e 6 ^^^ rotateRight s.e 11 ^^^ rotateRight s.e 25
  let chosen := (s.e &&& s.f) ^^^ (~~~s.e &&& s.g)
  let t₁ := s.h + s₁ + chosen + roots.getD i 0 + words.getD i 0
  let s₀ := rotateRight s.a 2 ^^^ rotateRight s.a 13 ^^^ rotateRight s.a 22
  let majority := (s.a &&& s.b) ^^^ (s.a &&& s.c) ^^^ (s.b &&& s.c)
  { a := t₁ + (s₀ + majority), b := s.a, c := s.b, d := s.c
    e := s.d + t₁, f := s.e, g := s.f, h := s.g }

/-- All rounds over one block, added to the chaining words from before it. -/
def compress (s : Chain) (block : Array UInt8) : Chain :=
  let t := (List.range 64).foldl (step (schedule block)) s
  ⟨s.a + t.a, s.b + t.b, s.c + t.c, s.d + t.d, s.e + t.e, s.f + t.f, s.g + t.g, s.h + t.h⟩

/-- The chaining words as thirty-two bytes. -/
def output (s : Chain) : List UInt8 :=
  [s.a, s.b, s.c, s.d, s.e, s.f, s.g, s.h].flatMap fun w => (bytesOfWord w).reverse

/-- SHA-256 as a block hash. -/
def blockHash : BlockHash where
  Chain := Chain
  start := start
  compress := compress
  writeLength n := (bytesOfLength n).reverse
  output := output
  outputSize := 32
  length_output _ := rfl

end SHA256

/-- SHA-256; a digest has thirty-two bytes. -/
def sha256 : HashFunction :=
  SHA256.blockHash.function

end ContentChecksum
