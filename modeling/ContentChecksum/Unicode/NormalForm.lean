import ContentChecksum.Unicode.Composites
import ContentChecksum.Unicode.Hangul
import ContentChecksum.Unicode.MarkOrder
import ContentChecksum.Unicode.Singletons

/-!
# Canonical normal forms

Texts that look the same can be spelled with composed or with separate characters, and with their
marks in different orders.  `nfd` takes every character apart and sorts the marks behind each base;
`nfc` then puts together again what belongs together.

* `expand` takes one character apart, following the tables to the end;
* `compose` joins a starter with later characters that nothing in between blocks.
-/

namespace ContentChecksum.Unicode

/-! ### Taking characters apart -/

/-- What one step of decomposition turns a character into. -/
inductive Mapping
  | one (c : Char)
  | two (first second : Char)
deriving DecidableEq, Repr

def pairTree (pairs : List (Nat × Nat × Nat)) : RangeTree (Char × Char) :=
  .ofEntries (pairs.map fun (c, a, b) => ⟨c, c, (Char.ofNat a, Char.ofNat b)⟩)

def primaryTree : RangeTree (Char × Char) := pairTree primaryComposites

def excludedTree : RangeTree (Char × Char) := pairTree excludedComposites

def singletonTree : RangeTree Char :=
  .ofEntries (singletons.map fun (c, a) => ⟨c, c, Char.ofNat a⟩)

/-- One step of decomposition, by the tables. -/
def mapping? (c : Char) : Option Mapping :=
  match primaryTree.find? c.toNat with
  | some (a, b) => some (.two a b)
  | none =>
    match singletonTree.find? c.toNat with
    | some a => some (.one a)
    | none => (excludedTree.find? c.toNat).map fun (a, b) => .two a b

/-- Take a character apart in front of `tail`, in at most `depth` steps.  Only the first of two
parts is ever taken apart further. -/
def expand : Nat → Char → List Char → List Char
  | 0, c, tail => c :: tail
  | depth + 1, c, tail =>
    match mapping? c with
    | none => c :: tail
    | some (.one a) => expand depth a tail
    | some (.two a b) => expand depth a (b :: tail)

/-- The full decomposition of a character.  None below U+00C0 has one, and three steps always lead
to its end. -/
def fullDecomposition (c : Char) : List Char :=
  if c.toNat < 0xC0 then [c]
  else
    match Hangul.decompose? c with
    | some letters => letters
    | none => expand 3 c []

/-- Every character taken apart. -/
def decompose (text : List Char) : List Char :=
  text.flatMap fullDecomposition

/-- Canonical decomposition: everything taken apart, marks in order. -/
def nfd (text : List Char) : List Char :=
  reorder (decompose text)

/-! ### Putting together -/

/-- A pair of code points as one number. -/
def pairKey (a b : Nat) : Nat :=
  a * 0x110000 + b

/-- The primary composites by the key of their two parts. -/
def compositeTree : RangeTree Char :=
  .ofEntries <| RangeTree.sortEntries <| primaryComposites.map
    fun (c, a, b) => ⟨pairKey a b, pairKey a b, Char.ofNat c⟩

/-- The character that two characters are composed into.  Nothing below U+0300 ever comes second. -/
def composite? (first second : Char) : Option Char :=
  if second.toNat < 0x300 then none
  else
    match Hangul.compose? first second with
    | some c => some c
    | none => compositeTree.find? (pairKey first.toNat second.toNat)

/-- A composition under way: what is finished, the starter that may still grow, and the characters
behind it that did not join it; both lists are kept back to front. -/
structure Composition where
  done : List Char
  starter : Option Char
  marks : List Char

namespace Composition

/-- Before the first character. -/
def empty : Composition :=
  ⟨[], none, []⟩

/-- Whether a character is kept from the starter by what stands between them: by a character of the
same class or a higher one. -/
def blocks (marks : List Char) (c : Char) : Bool :=
  match marks with
  | [] => false
  | m :: _ => combiningClass c ≤ combiningClass m

/-- All characters of a composition, back to front. -/
def flush (s : Composition) : List Char :=
  match s.starter with
  | none => s.marks ++ s.done
  | some k => s.marks ++ k :: s.done

/-- Take in a character that joins nothing. -/
def append (s : Composition) (c : Char) : Composition :=
  if isStarter c then ⟨s.flush, some c, []⟩
  else
    match s.starter with
    | none => { s with done := c :: s.done }
    | some _ => { s with marks := c :: s.marks }

/-- Take in the next character: it joins the starter if it can. -/
def push (s : Composition) (c : Char) : Composition :=
  match s.starter with
  | none => s.append c
  | some k =>
    if blocks s.marks c then s.append c
    else
      match composite? k c with
      | some p => { s with starter := some p }
      | none => s.append c

end Composition

/-- Join every starter with the characters behind it that reach it. -/
def compose (text : List Char) : List Char :=
  (text.foldl Composition.push Composition.empty).flush.reverse

/-- Canonical composition: taken apart, put in order, and joined again. -/
def nfc (text : List Char) : List Char :=
  compose (nfd text)

end ContentChecksum.Unicode
