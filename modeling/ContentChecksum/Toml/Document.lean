import ContentChecksum.Toml.Value

/-!
# Reading a whole TOML document

A document is read line by line: entries go into the table that the last header opened.  That
table is kept apart (`Builder.current`) and put in its place when the next header comes, or at the
end.  So a table that gets its own header after a table below it had one stands where that later
header put it.
-/

namespace ContentChecksum.Toml

/-- Where the table that is being filled belongs. -/
inductive Place
  | top
  /-- Under a key, at the end of a path. -/
  | table (path : List Key) (key : Key)
  /-- One more of the tables under a key. -/
  | element (path : List Key) (key : Key)
deriving Repr

/-- A document under construction. -/
structure Builder where
  root : Table
  current : Table
  place : Place
deriving Repr

namespace Builder

/-- Before the first line. -/
def start : Builder :=
  ⟨.empty, .empty, .top⟩

/-- The document with the current table in its place. -/
def close (b : Builder) : Option Table :=
  match b.place with
  | .top => some b.current
  | .table path key =>
    (b.root.descend false false path fun t =>
      some ((), t.add key (.table b.current.kind b.current.entries))).map Prod.snd
  | .element path key =>
    (b.root.descend false false path fun t =>
      match t.find? key with
      | some (.tables elements) => some ((), t.set key (.tables (b.current.entries :: elements)))
      | _ => none).map Prod.snd

/-- Begin a table with its own header.  A table that was only implied so far is taken up again; any
other use of the key is refused. -/
def openTable (b : Builder) (path : List Key) (key : Key) : Option Builder := do
  let root ← b.close
  let (current, root) ← root.descend false false path fun t =>
    match t.find? key with
    | none => some (Table.empty, t)
    | some (.table .implied entries) => some (⟨.explicit, entries⟩, t.erase key)
    | some _ => none
  return ⟨root, current, .table path key⟩

/-- Begin one more of the tables under a key. -/
def openElement (b : Builder) (path : List Key) (key : Key) : Option Builder := do
  let root ← b.close
  let ((), root) ← root.descend false false path fun t =>
    match t.find? key with
    | none => some ((), t.add key (.tables []))
    | some (.tables _) => some ((), t)
    | some _ => none
  return ⟨root, .empty, .element path key⟩

end Builder

/-- Read the line of a header behind its brackets. -/
def header? (room : Nat) (b : Builder) (text : List Char) : Option (Builder × List Char) :=
  match text with
  | '[' :: '[' :: rest => do
    let ((path, key), rest) ← key? room rest
    let rest ← after? ']' rest
    let rest ← after? ']' rest
    let rest ← lineEnd? rest
    let b ← b.openElement path key
    return (b, rest)
  | '[' :: rest => do
    let ((path, key), rest) ← key? room rest
    let rest ← after? ']' rest
    let rest ← lineEnd? rest
    let b ← b.openTable path key
    return (b, rest)
  | _ => none

/-- Read the line of an entry. -/
def entryLine? (room : Nat) (b : Builder) (text : List Char) : Option (Builder × List Char) := do
  let ((path, key, node), rest) ← entry? (value? room (depthLimit - 1)) room text
  let rest ← lineEnd? rest
  let current ← b.current.addEntry false path key node
  return ({ b with current }, rest)

/-- Read the lines of a document; `fuel` bounds their number. -/
def lines? : Nat → Builder → List Char → Option Builder
  | 0, _, _ => none
  | fuel + 1, b, text =>
    match skipBlank text with
    | [] => some b
    | text =>
      match lineEnd? text with
      | some rest => lines? fuel b rest
      | none =>
        match text with
        | '[' :: _ => do
          let (b, rest) ← header? fuel b text
          lines? fuel b rest
        | _ => do
          let (b, rest) ← entryLine? fuel b text
          lines? fuel b rest

/-- The entries of a document in their order, or `none` if the text is not TOML.  A byte order mark
in front is skipped. -/
def document? (text : List Char) : Option (List (Key × Node)) := do
  let text := match text with
    | c :: rest => if c.toNat = 0xFEFF then rest else c :: rest
    | [] => []
  let b ← lines? (text.length + 1) .start text
  let root ← b.close
  return root.entries

end ContentChecksum.Toml
