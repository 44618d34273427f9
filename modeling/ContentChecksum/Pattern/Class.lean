import ContentChecksum.Pattern.Atom

/-!
# Classes of characters in a pattern

A class stands in brackets and lists its members: characters, ranges of them, sets by an escape or
by a name, and other classes.  Between two lists may stand an operator for what is in both of them,
in the first alone, or in one of them alone.

Readers answer, besides the text that is left, how deep the parts of a class are nested.
-/

namespace ContentChecksum.Pattern

/-- How deep the parts of a pattern may be nested. -/
def limit : Nat := 250

/-- How deep parts that stand side by side are nested, given each one's own depth: one alone counts
as itself. -/
def sideBySide : List Nat → Nat
  | [] => 0
  | [depth] => depth
  | depths => 1 + depths.foldl max 0

/-- What has been read of a class. -/
structure Members where
  /-- Nothing yet but the bracket, a caret and hyphens. -/
  fresh : Bool
  /-- The depth of what stands before the last operator. -/
  left : Option Nat
  /-- The depths of the members behind it. -/
  depths : List Nat
deriving DecidableEq, Repr

namespace Members

/-- Behind the opening bracket. -/
def start : Members :=
  ⟨true, none, []⟩

/-- The depth of all that has been read. -/
def depth (ms : Members) : Nat :=
  match ms.left with
  | none => sideBySide ms.depths
  | some left => 1 + max left (sideBySide ms.depths)

/-- A hyphen at the head of a class, which stands for itself. -/
def hyphen (ms : Members) : Members :=
  ⟨true, ms.left, 0 :: ms.depths⟩

/-- One more member. -/
def push (ms : Members) (depth : Nat) : Members :=
  ⟨false, ms.left, depth :: ms.depths⟩

/-- An operator behind what has been read. -/
def operator (ms : Members) : Members :=
  ⟨false, some ms.depth, []⟩

end Members

/-- The classes that have names. -/
def classNames : List String :=
  ["alnum", "alpha", "ascii", "blank", "cntrl", "digit", "graph", "lower", "print", "punct",
    "space", "upper", "word", "xdigit"]

/-- Read the name of a class between colons, behind its bracket, and whether it stands for all other
characters. -/
def classNamed? : List Char → Option (Bool × List Char)
  | ':' :: text =>
    let (others, text) := match text with
      | '^' :: rest => (true, rest)
      | _ => (false, text)
    match text.span (· ≠ ':') with
    | (name, ':' :: ']' :: rest) =>
      if classNames.any (·.toList = name) then some (others, rest) else none
    | _ => none
  | _ => none

/-- Read a member of a class or a range of characters, which must not run backwards.  A hyphen at
the end of a class is no range, and neither is one with another behind it. -/
def range? (m : Mode) (text : List Char) : Option (List Char) := do
  let (first, rest) ← member? m text
  match m.skip rest with
  | '-' :: behind =>
    if m.behindHyphen? behind = some ']' ∨ m.behindHyphen? behind = some '-' then
      return '-' :: behind
    else
      let (last, rest) ← member? m (m.skip behind)
      match first, last with
      | .literal first, .literal last => if first ≤ last then return rest else none
      | _, _ => none
  | rest => return rest

/-- Read the members of a class up to the bracket that closes it; `fuel` bounds their number. -/
def members? (nested? : List Char → Option (Nat × List Char)) (m : Mode) :
    Nat → Members → List Char → Option (Nat × List Char)
  | 0, _, _ => none
  | fuel + 1, ms, text =>
    match m.skip text with
    | '-' :: rest =>
      if ms.fresh then members? nested? m fuel ms.hyphen rest
      else
        match rest with
        | '-' :: rest => members? nested? m fuel ms.operator rest
        | _ => do
          let rest ← range? m ('-' :: rest)
          members? nested? m fuel (ms.push 0) rest
    | ']' :: rest =>
      if ms = .start then members? nested? m fuel (ms.push 0) rest
      else some (ms.depth, rest)
    | '[' :: rest =>
      match classNamed? rest with
      | some (others, rest) =>
        if others && !m.unicode then none else members? nested? m fuel (ms.push 0) rest
      | none => do
        let (depth, rest) ← nested? rest
        members? nested? m fuel (ms.push depth) rest
    | '&' :: '&' :: rest => members? nested? m fuel ms.operator rest
    | '~' :: '~' :: rest => members? nested? m fuel ms.operator rest
    | text => do
      let rest ← range? m text
      members? nested? m fuel (ms.push 0) rest

/-- What is left behind the caret that turns a class into all other characters, if there is one.
There is none in a pattern of bytes. -/
def caret? (m : Mode) (text : List Char) : Option (List Char) :=
  match m.skip text with
  | '^' :: rest => if m.unicode then some rest else none
  | text => some text

/-- Read a class behind its opening bracket; classes in it are nested to less than the given
depth. -/
def class? (m : Mode) (room : Nat) : Nat → List Char → Option (Nat × List Char)
  | 0, _ => none
  | limit + 1, text => do
    let text ← caret? m text
    let (depth, rest) ← members? (class? m room limit) m room .start text
    return (depth + 1, rest)

end ContentChecksum.Pattern
