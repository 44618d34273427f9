import ContentChecksum.Pattern.Class

/-!
# Well-formed patterns

A pattern is a regular expression: branches with bars between them, each a row of items, which may
be repeated.  An item is an atom, a class, or a group, which holds a pattern of its own and may have
a name or a setting.  A setting alone in parentheses is an item that cannot be repeated.

A well-formed pattern closes what it opens, gives no name twice, and is not nested too deep
(`Pattern.isWellFormed`).
-/

namespace ContentChecksum.Pattern

/-! ### What has been read -/

/-- A pattern as far as it matters whether it is well formed. -/
structure Outline where
  /-- How deep its parts are nested. -/
  depth : Nat
  /-- The names of its groups. -/
  names : List (List Char)
deriving DecidableEq, Repr

/-- What has been read of the pattern in a group, the last item first. -/
structure Body where
  mode : Mode
  /-- The depths of the items of this branch.  A setting has none. -/
  items : List (Option Nat)
  /-- The depths of the branches before it. -/
  branches : List Nat
  names : List (List Char)
deriving DecidableEq, Repr

namespace Body

/-- Before the first item. -/
def start (m : Mode) : Body :=
  ⟨m, [], [], []⟩

/-- One more item. -/
def push (b : Body) (depth : Nat) : Body :=
  { b with items := some depth :: b.items }

/-- A setting for all that follows. -/
def set (b : Body) (setting : List Char) : Body :=
  { b with mode := b.mode.set setting, items := none :: b.items }

/-- A group of the given name, if it has one. -/
def pushGroup (b : Body) (name : List (List Char)) (inner : Outline) : Body :=
  { b.push (inner.depth + 1) with names := name ++ inner.names ++ b.names }

/-- The last item once more, or more often. -/
def repeated? (b : Body) : Option Body :=
  match b.items with
  | some depth :: items => some { b with items := some (depth + 1) :: items }
  | _ => none

/-- The depth of the branch that is being read. -/
def branch (b : Body) : Nat :=
  sideBySide (b.items.map (·.getD 0))

/-- The next branch. -/
def bar (b : Body) : Body :=
  { b with items := [], branches := b.branch :: b.branches }

/-- The whole pattern, where it ends. -/
def outline (b : Body) : Outline :=
  ⟨sideBySide (b.branch :: b.branches), b.names⟩

end Body

/-! ### The head of a group -/

/-- What stands behind an opening parenthesis. -/
inductive Opening
  /-- Nothing but a setting, and the closing one. -/
  | setting (letters : List Char)
  /-- A group with a setting, which may be empty, or with a name. -/
  | group (letters : List Char) (name : List (List Char))
deriving DecidableEq, Repr

/-- Whether a character may stand in the name of a group behind the first one. -/
def isNameCharacter (c : Char) : Bool :=
  Unicode.isAlphanumeric c || c ∈ ['_', '.', '[', ']']

/-- Read the name of a group up to the angle that closes it. -/
def named? (text : List Char) : Option (Opening × List Char) :=
  match text.span (· ≠ '>') with
  | (c :: name, '>' :: rest) =>
    if (c = '_' || Unicode.isAlphabetic c) && name.all isNameCharacter then
      some (.group [] [c :: name], rest)
    else none
  | _ => none

/-- Read a setting up to a colon or to the parenthesis that closes it. -/
def setting? (text : List Char) : Option (Opening × List Char) :=
  let (letters, rest) := text.span fun c => c ≠ ':' && c ≠ ')'
  if Mode.isSetting letters then
    match rest with
    | ':' :: rest => some (.group letters [], rest)
    | ')' :: rest => if letters = [] then none else some (.setting letters, rest)
    | _ => none
  else none

/-- Read what stands between an opening parenthesis and the pattern in the group.  A group cannot
look at what stands before or behind it. -/
def opening? (m : Mode) (text : List Char) : Option (Opening × List Char) :=
  match m.skip text with
  | '?' :: 'P' :: '<' :: rest => named? rest
  | '?' :: '<' :: '=' :: _ => none
  | '?' :: '<' :: '!' :: _ => none
  | '?' :: '<' :: rest => named? rest
  | '?' :: rest => setting? rest
  | rest => some (.group [] [], rest)

/-! ### Groups and patterns -/

/-- What is left behind the mark of a repetition that is as short as may be, if there is one. -/
def skipShort : List Char → List Char
  | '?' :: rest => rest
  | rest => rest

/-- Read a pattern up to its end or to the parenthesis that closes its group; `fuel` bounds the
number of its items.  Repetitions by number do not occur, for a brace would have to be closed by one
that closes the whole pattern. -/
def body? (group? : Mode → List Char → Option (Outline × List Char)) (room : Nat) :
    Nat → Body → List Char → Option (Outline × List Char)
  | 0, _, _ => none
  | fuel + 1, b, text =>
    match b.mode.skip text with
    | [] => some (b.outline, [])
    | c :: rest =>
      match c with
      | ')' => some (b.outline, c :: rest)
      | '|' => body? group? room fuel b.bar rest
      | '(' =>
        match opening? b.mode rest with
        | some (.setting letters, rest) => body? group? room fuel (b.set letters) rest
        | some (.group letters name, rest) => do
          let (inner, rest) ← group? (b.mode.set letters) rest
          body? group? room fuel (b.pushGroup name inner) rest
        | none => none
      | '[' => do
        let (depth, rest) ← class? b.mode room limit rest
        body? group? room fuel (b.push depth) rest
      | '?' | '*' | '+' => do
        let b ← b.repeated?
        body? group? room fuel b (skipShort rest)
      | '\x7b' => none
      | _ => do
        let (_, rest) ← atom? b.mode (c :: rest)
        body? group? room fuel (b.push 0) rest

/-- Read the pattern in a group and the parenthesis that closes it; groups in it are nested to less
than the given depth. -/
def group? (room : Nat) : Nat → Mode → List Char → Option (Outline × List Char)
  | 0, _, _ => none
  | limit + 1, m, text => do
    match ← body? (group? room limit) room room (.start m) text with
    | (inner, ')' :: rest) => return (inner, rest)
    | _ => none

/-- The outline of a pattern, if it closes what it opens. -/
def outline? (text : List Char) : Option Outline := do
  let room := text.length + 1
  match ← body? (group? room limit) room room (.start .initial) text with
  | (outline, []) => return outline
  | _ => none

/-- Whether a text is a well-formed pattern. -/
def isWellFormed (text : List Char) : Bool :=
  match outline? text with
  | some outline => outline.depth ≤ limit && outline.names.Nodup
  | none => false

end ContentChecksum.Pattern
