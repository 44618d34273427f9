import ContentChecksum.Number.Binary64

/-!
# TOML documents as trees

A document is a table: keys with their values in the order in which they came.  Tables come about in
three ways, which decide what may still be added to them (`TableKind`).  `Table.descend` walks along
a path of keys, making the tables that are missing on the way, and refuses to enter what must not be
changed.
-/

namespace ContentChecksum.Toml

abbrev Key := List Char

/-- How a table came about. -/
inductive TableKind
  /-- It was written out: by its own header, or between braces.  The document itself is one. -/
  | explicit
  /-- A dotted key went through it. -/
  | dotted
  /-- A header of a table below it went through it. -/
  | implied
deriving DecidableEq, Repr

/-- What stands in a document: the values, and the tables that headers build. -/
inductive Node
  | string (text : List Char)
  | integer (n : Int)
  | float (x : Binary64)
  | boolean (b : Bool)
  /-- A date, a time, or both. -/
  | moment
  | array (items : List Node)
  /-- A table between braces. -/
  | inline (kind : TableKind) (entries : List (Key × Node))
  /-- A table under a header. -/
  | table (kind : TableKind) (entries : List (Key × Node))
  /-- Several tables under one double header, the last one first. -/
  | tables (elements : List (List (Key × Node)))
deriving Repr

/-- A table under construction. -/
structure Table where
  kind : TableKind
  entries : List (Key × Node)
deriving Repr

namespace Table

/-- An explicit table without entries. -/
def empty : Table :=
  ⟨.explicit, []⟩

/-- The value of a key. -/
def find? (t : Table) (key : Key) : Option Node :=
  t.entries.lookup key

/-- Put a new key behind the others. -/
def add (t : Table) (key : Key) (node : Node) : Table :=
  { t with entries := t.entries ++ [(key, node)] }

/-- Give a key another value at its place. -/
def set (t : Table) (key : Key) (node : Node) : Table :=
  { t with entries := t.entries.map fun e => if e.1 = key then (key, node) else e }

/-- Take a key out. -/
def erase (t : Table) (key : Key) : Table :=
  { t with entries := t.entries.filter fun e => e.1 ≠ key }

/-- Change the table at the end of a path.  Missing tables are made on the way: dotted ones for a
dotted key, implied ones for a header.  A dotted key may not enter an explicit table; a header may,
and enters the last element where there are several tables.  Values cannot be entered, except that
inside braces (`inBraces`) the tables are values themselves. -/
def descend {α : Type} (inBraces isDotted : Bool) :
    List Key → (Table → Option (α × Table)) → Table → Option (α × Table)
  | [], change, t => change t
  | key :: path, change, t =>
    match t.find? key with
    | none => do
      let (a, below) ← descend inBraces isDotted path change ⟨if isDotted then .dotted else .implied, []⟩
      return (a, t.add key
        (if inBraces then .inline below.kind below.entries else .table below.kind below.entries))
    | some (.table kind entries) =>
      if isDotted && kind = .explicit then none
      else do
        let (a, below) ← descend inBraces isDotted path change ⟨kind, entries⟩
        return (a, t.set key (.table below.kind below.entries))
    | some (.inline kind entries) =>
      if !inBraces || (isDotted && kind = .explicit) then none
      else do
        let (a, below) ← descend inBraces isDotted path change ⟨kind, entries⟩
        return (a, t.set key (.inline below.kind below.entries))
    | some (.tables (last :: others)) => do
      let (a, below) ← descend inBraces isDotted path change ⟨.explicit, last⟩
      return (a, t.set key (.tables (below.entries :: others)))
    | some _ => none

/-- Put a value under a dotted key, given as its last part and the path before it.  The key must be
new.  Where there is a path, it must end in a table that a dotted key made. -/
def addEntry (inBraces : Bool) (path : List Key) (key : Key) (node : Node) (t : Table) :
    Option Table :=
  (descend inBraces true path (fun t =>
    if (t.kind = .dotted) ↔ path = [] then none
    else match t.find? key with
      | some _ => none
      | none => some ((), t.add key node)) t).map Prod.snd

end Table

end ContentChecksum.Toml
