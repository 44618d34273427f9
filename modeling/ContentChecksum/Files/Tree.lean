import ContentChecksum.Files.Fault
import ContentChecksum.Files.Path
import ContentChecksum.Reader.Source

/-!
# A tree of files

A `FileTree` says what lies at each place: a file with its bytes, or a directory.  A place is the
list of names that lead to it from the root, and the root itself is always a directory.

`resolve` follows a path from the current directory to the place it names, the way a system does:
dots stay, double dots go up, and everything on the way must be a directory.  The other operations
are changes at the place that a path resolves to, or the fault that keeps them from being made.
-/

namespace ContentChecksum

/-- What lies at a place. -/
inductive Entry
  | file (content : List UInt8)
  | directory
deriving DecidableEq, Repr

/-- The names that lead from the root to a place. -/
abbrev Location := List String

/-- All files and directories, by their locations. -/
structure FileTree where
  entries : List (Location × Entry)
deriving Repr

namespace FileTree

/-- What lies at a location. -/
def find? (t : FileTree) (loc : Location) : Option Entry :=
  if loc = [] then some .directory else t.entries.lookup loc

/-- Put something at a location, in place of what was there. -/
def put (t : FileTree) (loc : Location) (e : Entry) : FileTree :=
  ⟨(loc, e) :: t.entries.filter fun entry => entry.1 ≠ loc⟩

/-! ### Following paths -/

/-- Where a path leads. -/
inductive Target
  | present (loc : Location) (e : Entry)
  /-- Nothing is there, but the directory it would be in is. -/
  | vacant (loc : Location)
deriving Repr

/-- The most bytes a single name may have. -/
def nameLimit : Nat := 255

/-- The most bytes a path may have. -/
def pathLimit : Nat := 4095

/-- Follow the parts of a path from a directory. -/
def walk (t : FileTree) (here : Location) : List String → Except Fault Target
  | [] => .ok (.present here .directory)
  | part :: rest =>
    if Path.isBlank part then t.walk here rest
    else if part = ".." then t.walk here.dropLast rest
    else if nameLimit < part.utf8ByteSize then .error .nameTooLong
    else
      match t.find? (here ++ [part]) with
      | some .directory => t.walk (here ++ [part]) rest
      | some (.file content) =>
        if rest = [] then .ok (.present (here ++ [part]) (.file content)) else .error .notADirectory
      | none =>
        if rest.all (· = "") then .ok (.vacant (here ++ [part])) else .error .notFound

/-- Follow a path from the current directory. -/
def resolve (t : FileTree) (here : Location) (path : String) : Except Fault Target :=
  if path.toList.any (·.toNat = 0) then .error .nullInName
  else if path = "" then .error .notFound
  else if pathLimit < path.utf8ByteSize then .error .nameTooLong
  else t.walk (if Path.isAbsolute path then [] else here) (Path.split path)

/-- Whether anything lies where a path leads. -/
def has (t : FileTree) (here : Location) (path : String) : Bool :=
  match t.resolve here path with
  | .ok (.present _ _) => true
  | _ => false

/-- Whether a path leads to a directory. -/
def isDirectory (t : FileTree) (here : Location) (path : String) : Bool :=
  match t.resolve here path with
  | .ok (.present _ .directory) => true
  | _ => false

/-! ### Operations -/

/-- Make one directory, where nothing was before. -/
def makeDirectory (t : FileTree) (here : Location) (path : String) : Except Fault FileTree :=
  match t.resolve here path with
  | .error fault => .error fault
  | .ok (.present _ _) => .error .alreadyExists
  | .ok (.vacant loc) => .ok (t.put loc .directory)

/-- Open a file for reading.  A directory can be opened too, but not read. -/
def openSource (t : FileTree) (here : Location) (path : String) : Except Fault Source :=
  match t.resolve here path with
  | .error fault => .error fault
  | .ok (.present _ (.file content)) => .ok (.ofBytes content)
  | .ok (.present _ .directory) => .ok (.ofFault .isADirectory)
  | .ok (.vacant _) => .error .notFound

/-- Change the bytes of a file; one that does not exist is made from no bytes.  Slashes behind a vacant
name make no difference, although a system makes no file from such a path: the paths of the files that
are written to here end in a name. -/
def modifyFile (t : FileTree) (here : Location) (path : String)
    (change : List UInt8 → List UInt8) : Except Fault FileTree :=
  match t.resolve here path with
  | .error fault => .error fault
  | .ok (.present loc (.file content)) => .ok (t.put loc (.file (change content)))
  | .ok (.present _ .directory) => .error .isADirectory
  | .ok (.vacant loc) => .ok (t.put loc (.file (change [])))

/-- Add bytes at the end of a file. -/
def append (t : FileTree) (here : Location) (path : String) (bytes : List UInt8) :
    Except Fault FileTree :=
  t.modifyFile here path (· ++ bytes)

/-- Give a file new bytes. -/
def write (t : FileTree) (here : Location) (path : String) (bytes : List UInt8) :
    Except Fault FileTree :=
  t.modifyFile here path fun _ => bytes

/-! ### Looking up after a change -/

/-- The root is always there. -/
@[simp] theorem find?_root (t : FileTree) : t.find? [] = some .directory := by
  simp [find?]

/-- What was put at a location is found there. -/
theorem find?_put_self (t : FileTree) {loc : Location} (e : Entry) (h : loc ≠ []) :
    (t.put loc e).find? loc = some e := by
  simp [find?, put, h]

/-- What is left out at one location does not show at another. -/
theorem lookup_filter_ne {loc other : Location} (h : other ≠ loc)
    (entries : List (Location × Entry)) :
    (entries.filter fun entry => entry.1 ≠ loc).lookup other = entries.lookup other := by
  induction entries with
  | nil => rfl
  | cons x xs ih =>
    obtain ⟨key, e⟩ := x
    by_cases hk : key = loc
    · have hne : (other == key) = false := by simpa [hk] using h
      rw [List.filter_cons_of_neg (by simpa using hk), ih, List.lookup_cons, hne]
    · rw [List.filter_cons_of_pos (by simpa using hk), List.lookup_cons, List.lookup_cons, ih]

/-- All other locations keep what they have. -/
theorem find?_put_of_ne (t : FileTree) {loc other : Location} (e : Entry) (h : other ≠ loc) :
    (t.put loc e).find? other = t.find? other := by
  have hne : (other == loc) = false := by simpa using h
  unfold find? put
  rw [List.lookup_cons, hne, lookup_filter_ne h]

end FileTree

end ContentChecksum
