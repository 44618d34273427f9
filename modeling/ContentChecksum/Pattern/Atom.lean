import ContentChecksum.Hex
import ContentChecksum.Pattern.Mode

/-!
# Characters and escapes of a pattern

Behind a backslash a sign stands for itself, and a letter for a character, for a set of characters
or for a position in the text.  Digits, and the letters without a meaning, must not stand there.
-/

namespace ContentChecksum.Pattern

/-- The smallest parts of a pattern. -/
inductive Atom
  | literal (code : Nat)
  /-- One character out of several. -/
  | set
  /-- A place between two characters. -/
  | position
deriving DecidableEq, Repr

/-- Whether a code is one of ASCII. -/
def isAscii (code : Nat) : Bool :=
  code < 0x80

/-- Read a number of so many hexadecimal digits behind the one that has been read. -/
def digits? (m : Mode) : Nat → Nat → List Char → Option (Nat × List Char)
  | 0, code, text => some (code, text)
  | count + 1, code, text =>
    match m.skip text with
    | [] => none
    | c :: rest => do
      let digit ← Hex.value? c
      digits? m count (code * 16 + digit) rest

/-- Read a character by its number, given in so many digits. -/
def numbered? (m : Mode) (count : Nat) (text : List Char) : Option (Nat × List Char) := do
  let (code, rest) ← digits? m count 0 text
  if code.isValidChar then return (code, rest) else none

/-- The general categories that have a letter of their own: other, letters, marks, numbers,
punctuation, symbols and separators. -/
def categories : List Char :=
  ['c', 'l', 'm', 'n', 'p', 's', 'z']

/-- Read the letter of a category, which is a set of characters of all scripts. -/
def category? (m : Mode) (text : List Char) : Option (Atom × List Char) :=
  match m.skip text with
  | [] => none
  | c :: rest => if m.unicode && c.toLower ∈ categories then some (.set, rest) else none

/-- Read what stands behind a backslash.  A word boundary needs the bytes, for it would have to look
at whole characters on either side. -/
def escape? (m : Mode) : List Char → Option (Atom × List Char)
  | [] => none
  | c :: rest =>
    match c with
    | 'x' => do
      let (code, rest) ← numbered? m 2 rest
      if m.unicode || isAscii code then return (.literal code, rest) else none
    | 'u' => (numbered? m 4 rest).map fun (code, rest) => (.literal code, rest)
    | 'U' => (numbered? m 8 rest).map fun (code, rest) => (.literal code, rest)
    | 'p' | 'P' => category? m rest
    | 'd' | 's' | 'w' => some (.set, rest)
    | 'D' | 'S' | 'W' => if m.unicode then some (.set, rest) else none
    | 'a' => some (.literal 0x07, rest)
    | 't' => some (.literal 0x09, rest)
    | 'n' => some (.literal 0x0A, rest)
    | 'v' => some (.literal 0x0B, rest)
    | 'f' => some (.literal 0x0C, rest)
    | 'r' => some (.literal 0x0D, rest)
    | 'A' | 'z' => some (.position, rest)
    | 'b' | 'B' | '<' | '>' => if m.unicode then none else some (.position, rest)
    | _ => if isAscii c.toNat && !c.isAlphanum then some (.literal c.toNat, rest) else none

/-- Read an atom outside of a class.  A dot is any character, and so none of a pattern of bytes. -/
def atom? (m : Mode) : List Char → Option (Atom × List Char)
  | [] => none
  | '\\' :: rest => escape? m rest
  | '.' :: rest => if m.unicode then some (.set, rest) else none
  | '^' :: rest => some (.position, rest)
  | '$' :: rest => some (.position, rest)
  | c :: rest => some (.literal c.toNat, rest)

/-- Read a member of a class, or an end of a range in it.  A class has no positions, and in a
pattern of bytes nothing but ASCII. -/
def member? (m : Mode) (text : List Char) : Option (Atom × List Char) := do
  let (atom, rest) ← match text with
    | [] => none
    | '\\' :: rest => escape? m rest
    | c :: rest => some (.literal c.toNat, rest)
  match atom with
  | .literal code => if m.unicode || isAscii code then return (.literal code, rest) else none
  | .set => return (.set, rest)
  | .position => none

end ContentChecksum.Pattern
