/-!
# Lowercase hexadecimal

Bytes are written as two hexadecimal digits each, high half first, with the letters `a` to `f`
in lower case.  `length_encode` says how long the written form is and `isDigit_of_mem_encode` which
characters it is made of; digests are always written this way.
-/

namespace ContentChecksum.Hex

/-- The digit that stands for `n`, a number below sixteen. -/
def digit (n : Nat) : Char :=
  Nat.digitChar n

/-- The two digits of one byte. -/
def byte (b : UInt8) : List Char :=
  [digit (b.toNat / 16), digit (b.toNat % 16)]

/-- The written form of a sequence of bytes. -/
def encode (bytes : List UInt8) : List Char :=
  bytes.flatMap byte

/-- The value of a hexadecimal digit, in either case. -/
def value? (c : Char) : Option Nat :=
  if c.isDigit then some (c.toNat - '0'.toNat)
  else if 'a' ≤ c ∧ c ≤ 'f' then some (c.toNat - 'a'.toNat + 10)
  else if 'A' ≤ c ∧ c ≤ 'F' then some (c.toNat - 'A'.toNat + 10)
  else none

/-- Whether a character is a digit that `encode` writes. -/
def isDigit (c : Char) : Bool :=
  c.isDigit || ('a' ≤ c && c ≤ 'f')

@[simp] theorem encode_cons (b : UInt8) (bytes : List UInt8) :
    encode (b :: bytes) = byte b ++ encode bytes := by
  simp [encode]

/-- Every byte takes two digits. -/
@[simp] theorem length_encode (bytes : List UInt8) : (encode bytes).length = 2 * bytes.length := by
  induction bytes with
  | nil => rfl
  | cons b r ih => simp [byte, ih]; omega

/-- The digits below sixteen are `0` to `9` and `a` to `f`. -/
theorem isDigit_digit {n : Nat} (h : n < 16) : isDigit (digit n) = true := by
  have : ∀ m : Fin 16, isDigit (digit m) = true := by decide
  exact this ⟨n, h⟩

/-- So are the two digits of a byte. -/
theorem isDigit_of_mem_byte {b : UInt8} {c : Char} (h : c ∈ byte b) : isDigit c = true := by
  have hb := b.toNat_lt
  simp only [byte, List.mem_cons, List.not_mem_nil, or_false] at h
  rcases h with rfl | rfl <;> exact isDigit_digit (by omega)

/-- Nothing but lowercase hexadecimal digits is written. -/
theorem isDigit_of_mem_encode {bytes : List UInt8} {c : Char} (h : c ∈ encode bytes) :
    isDigit c = true := by
  obtain ⟨b, -, hc⟩ := List.mem_flatMap.1 h
  exact isDigit_of_mem_byte hc

-- `0x00`, `0xff` and `0x3a` as text.
example : encode [0, 255, 58] = ['0', '0', 'f', 'f', '3', 'a'] := by decide

end ContentChecksum.Hex
