/-!
# Hangul syllables

The 11172 precomposed syllables are laid out by a rule: a leading consonant (19 of them), a vowel
(21) and a trailing consonant (27, or none), counted in that order from U+AC00.  Their
decomposition and composition is arithmetic and needs no table.
-/

namespace ContentChecksum.Unicode.Hangul

def syllableBase : Nat := 0xAC00
def leadingBase : Nat := 0x1100
def vowelBase : Nat := 0x1161
/-- One below the first trailing consonant, so that place zero means none. -/
def trailingBase : Nat := 0x11A7

def leadingCount : Nat := 19
def vowelCount : Nat := 21
def trailingCount : Nat := 28

/-- Number of syllables that begin with one leading consonant. -/
def perLeading : Nat := vowelCount * trailingCount

def syllableCount : Nat := leadingCount * perLeading

/-- The place of a character counted from a base, if it is among the `count` characters there. -/
def place? (base count : Nat) (c : Char) : Option Nat :=
  if base ≤ c.toNat ∧ c.toNat < base + count then some (c.toNat - base) else none

/-- The two or three letters of a precomposed syllable. -/
def decompose? (c : Char) : Option (List Char) :=
  (place? syllableBase syllableCount c).map fun s =>
    let leading := Char.ofNat (leadingBase + s / perLeading)
    let vowel := Char.ofNat (vowelBase + s % perLeading / trailingCount)
    let trailing := s % trailingCount
    if trailing = 0 then [leading, vowel]
    else [leading, vowel, Char.ofNat (trailingBase + trailing)]

/-- The syllable of a leading consonant and a vowel, or of an open syllable and a trailing
consonant. -/
def compose? (first second : Char) : Option Char :=
  match place? leadingBase leadingCount first, place? vowelBase vowelCount second with
  | some l, some v => some (Char.ofNat (syllableBase + (l * vowelCount + v) * trailingCount))
  | _, _ =>
    match place? syllableBase syllableCount first,
      place? (trailingBase + 1) (trailingCount - 1) second with
    | some s, some t =>
      if s % trailingCount = 0 then some (Char.ofNat (first.toNat + t + 1)) else none
    | _, _ => none

end ContentChecksum.Unicode.Hangul
