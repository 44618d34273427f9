import ContentChecksum.Unicode.Alphanumeric

/-!
# How a pattern is read

Letters at the head of a group, or alone in parentheses, set how a pattern is read from there to the
end of the group.  Two of them decide what a well-formed pattern is: whether space and comments
count, and whether the pattern is one of characters or of bytes.  A pattern of bytes must not match
anything but whole characters, so only ASCII has a place in its classes.
-/

namespace ContentChecksum.Pattern

/-- How a pattern is read. -/
structure Mode where
  /-- Space does not count, nor what stands behind a hash sign on a line. -/
  spaced : Bool
  /-- The pattern is one of characters, not of bytes. -/
  unicode : Bool
deriving DecidableEq, Repr

namespace Mode

/-- How a pattern is read if it does not say so. -/
def initial : Mode :=
  ⟨false, true⟩

/-! ### Space and comments -/

/-- What is left behind space and comments.  The flag says that a comment has begun, which goes on
to the end of the line. -/
def skipSpace : Bool → List Char → List Char
  | _, [] => []
  | true, c :: rest => skipSpace (c ≠ '\n') rest
  | false, c :: rest =>
    if Unicode.isBlank c then skipSpace false rest
    else if c = '#' then skipSpace true rest
    else c :: rest

/-- What is left behind all that does not count. -/
def skip (m : Mode) (text : List Char) : List Char :=
  if m.spaced then skipSpace false text else text

/-- The character that decides whether a hyphen in a class stands for itself: the next one, behind
space and one hash sign where these do not count. -/
def behindHyphen? (m : Mode) (text : List Char) : Option Char :=
  if m.spaced then
    match text.dropWhile Unicode.isBlank with
    | '#' :: rest => (rest.dropWhile Unicode.isBlank).head?
    | rest => rest.head?
  else text.head?

/-! ### Settings -/

/-- The letters that set how a pattern is read. -/
def letters : List Char :=
  ['i', 'm', 's', 'U', 'u', 'R', 'x']

/-- Whether a text sets how a pattern is read: letters, of which those behind a hyphen are switched
off, each of them at most once. -/
def isSetting (text : List Char) : Bool :=
  text.all (fun c => c ∈ '-' :: letters) && text.length ≤ letters.length + 1 && text.Nodup &&
    text.getLast? ≠ some '-'

/-- The mode in which a setting leaves what a letter stands for. -/
def switched (setting : List Char) (letter : Char) (was : Bool) : Bool :=
  let (on, off) := setting.span (· ≠ '-')
  letter ∈ on || (was && letter ∉ off)

/-- The mode behind a setting. -/
def set (m : Mode) (setting : List Char) : Mode :=
  ⟨switched setting 'x' m.spaced, switched setting 'u' m.unicode⟩

end Mode

end ContentChecksum.Pattern
