import ContentChecksum.Hex

/-!
# Strings in JSON

A string stands between double quotes.  When writing, only what must be escaped is escaped: the
quote, the backslash and the characters below U+0020; five of these have letters of their own.  When
reading, every escape of the format is understood, characters outside the basic plane being written
as two units that belong together.
-/

namespace ContentChecksum.Json

/-! ### Writing -/

/-- The written form of one character. -/
def escape (c : Char) : List Char :=
  match c with
  | '"' => ['\\', '"']
  | '\\' => ['\\', '\\']
  | '\n' => ['\\', 'n']
  | '\r' => ['\\', 'r']
  | '\t' => ['\\', 't']
  | c =>
    if c.toNat = 0x08 then ['\\', 'b']
    else if c.toNat = 0x0C then ['\\', 'f']
    else if c.toNat < 0x20 then
      ['\\', 'u', '0', '0', Hex.digit (c.toNat / 16), Hex.digit (c.toNat % 16)]
    else [c]

/-- A text between quotes. -/
def quote (text : List Char) : List Char :=
  '"' :: text.flatMap escape ++ ['"']

/-! ### Reading -/

/-- The number that four hexadecimal digits make. -/
def unit? (a b c d : Char) : Option Nat := do
  let a ← Hex.value? a
  let b ← Hex.value? b
  let c ← Hex.value? c
  let d ← Hex.value? d
  return ((a * 16 + b) * 16 + c) * 16 + d

/-- Whether a unit is the first of two that stand for one character. -/
def isHighUnit (n : Nat) : Bool :=
  0xD800 ≤ n && n < 0xDC00

/-- Whether a unit is the second of two that stand for one character. -/
def isLowUnit (n : Nat) : Bool :=
  0xDC00 ≤ n && n < 0xE000

/-- The character behind the letter of a short escape. -/
def shortEscape? (c : Char) : Option Char :=
  match c with
  | '"' => some '"'
  | '\\' => some '\\'
  | '/' => some '/'
  | 'b' => some (Char.ofNat 0x08)
  | 'f' => some (Char.ofNat 0x0C)
  | 'n' => some '\n'
  | 'r' => some '\r'
  | 't' => some '\t'
  | _ => none

/-- Read a string up to its closing quote: the text, and what follows the quote.  What has been read
is kept back to front.  An unclosed string, an unknown escape, a unit without its partner and a
character below U+0020 are all refused. -/
def unquoteOnto (seen : List Char) : List Char → Option (List Char × List Char)
  | [] => none
  | '"' :: rest => some (seen.reverse, rest)
  | '\\' :: 'u' :: a :: b :: c :: d :: rest =>
    match unit? a b c d with
    | none => none
    | some n =>
      if isLowUnit n then none
      else if isHighUnit n then
        match rest with
        | '\\' :: 'u' :: a :: b :: c :: d :: rest =>
          match unit? a b c d with
          | none => none
          | some k =>
            if isLowUnit k then
              unquoteOnto (Char.ofNat (0x10000 + (n - 0xD800) * 0x400 + (k - 0xDC00)) :: seen) rest
            else none
        | _ => none
      else unquoteOnto (Char.ofNat n :: seen) rest
  | '\\' :: c :: rest =>
    match shortEscape? c with
    | none => none
    | some c => unquoteOnto (c :: seen) rest
  | c :: rest => if c = '\\' ∨ c.toNat < 0x20 then none else unquoteOnto (c :: seen) rest

/-- Read what follows an opening quote. -/
def unquote? (text : List Char) : Option (List Char × List Char) :=
  unquoteOnto [] text

end ContentChecksum.Json
