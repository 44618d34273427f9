import ContentChecksum.Digest.Function

/-!
# MD5

The digest that checksums are made of.  A block is read as sixteen words, low byte first; sixty-four
steps stir them into four chaining words; the length of the message is written low byte first.
-/

namespace ContentChecksum.MD5

/-- The four chaining words. -/
structure Chain where
  a : UInt32
  b : UInt32
  c : UInt32
  d : UInt32
deriving DecidableEq

/-- The chaining words before the first block. -/
def start : Chain :=
  ⟨0x67452301, 0xefcdab89, 0x98badcfe, 0x10325476⟩

/-- The added constant of each step: `⌊2³² · |sin (i + 1)|⌋`. -/
def sines : Array UInt32 := #[
  0xd76aa478, 0xe8c7b756, 0x242070db, 0xc1bdceee, 0xf57c0faf, 0x4787c62a, 0xa8304613, 0xfd469501,
  0x698098d8, 0x8b44f7af, 0xffff5bb1, 0x895cd7be, 0x6b901122, 0xfd987193, 0xa679438e, 0x49b40821,
  0xf61e2562, 0xc040b340, 0x265e5a51, 0xe9b6c7aa, 0xd62f105d, 0x02441453, 0xd8a1e681, 0xe7d3fbc8,
  0x21e1cde6, 0xc33707d6, 0xf4d50d87, 0x455a14ed, 0xa9e3e905, 0xfcefa3f8, 0x676f02d9, 0x8d2a4c8a,
  0xfffa3942, 0x8771f681, 0x6d9d6122, 0xfde5380c, 0xa4beea44, 0x4bdecfa9, 0xf6bb4b60, 0xbebfbc70,
  0x289b7ec6, 0xeaa127fa, 0xd4ef3085, 0x04881d05, 0xd9d4d039, 0xe6db99e5, 0x1fa27cf8, 0xc4ac5665,
  0xf4292244, 0x432aff97, 0xab9423a7, 0xfc93a039, 0x655b59c3, 0x8f0ccc92, 0xffeff47d, 0x85845dd1,
  0x6fa87e4f, 0xfe2ce6e0, 0xa3014314, 0x4e0811a1, 0xf7537e82, 0xbd3af235, 0x2ad7d2bb, 0xeb86d391]

/-- The four turns that each group of sixteen steps goes through again and again. -/
def turns : Array UInt32 := #[
  7, 12, 17, 22,
  5, 9, 14, 20,
  4, 11, 16, 23,
  6, 10, 15, 21]

/-- One step: stir one message word into the chaining words.  The group of the step decides how
three of them are mixed and which message word is taken. -/
def step (words : Array UInt32) (s : Chain) (i : Nat) : Chain :=
  let group := i / 16
  let mixed : UInt32 := match group with
    | 0 => (s.b &&& s.c) ||| (~~~s.b &&& s.d)
    | 1 => (s.d &&& s.b) ||| (~~~s.d &&& s.c)
    | 2 => s.b ^^^ s.c ^^^ s.d
    | _ => s.c ^^^ (s.b ||| ~~~s.d)
  let place := match group with
    | 0 => i
    | 1 => (5 * i + 1) % 16
    | 2 => (3 * i + 5) % 16
    | _ => 7 * i % 16
  let sum := s.a + mixed + sines.getD i 0 + words.getD place 0
  { a := s.d, b := s.b + rotateLeft sum (turns.getD (4 * group + i % 4) 1), c := s.b, d := s.c }

/-- The sixteen words of a block. -/
def words (block : Array UInt8) : Array UInt32 :=
  (Array.range 16).map fun i =>
    wordOfLow (block.getD (4 * i) 0) (block.getD (4 * i + 1) 0) (block.getD (4 * i + 2) 0)
      (block.getD (4 * i + 3) 0)

/-- All steps over one block, added to the chaining words from before it. -/
def compress (s : Chain) (block : Array UInt8) : Chain :=
  let t := (List.range 64).foldl (step (words block)) s
  ⟨s.a + t.a, s.b + t.b, s.c + t.c, s.d + t.d⟩

/-- The chaining words as sixteen bytes. -/
def output (s : Chain) : List UInt8 :=
  bytesOfWord s.a ++ bytesOfWord s.b ++ bytesOfWord s.c ++ bytesOfWord s.d

/-- MD5 as a block hash. -/
def blockHash : BlockHash where
  Chain := Chain
  start := start
  compress := compress
  writeLength := bytesOfLength
  output := output
  outputSize := 16
  length_output _ := rfl

end MD5

/-- The hash function of the current checksums; a digest has sixteen bytes. -/
def md5 : HashFunction :=
  MD5.blockHash.function

end ContentChecksum
