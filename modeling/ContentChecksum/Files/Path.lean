/-!
# Paths as texts

A path is a text of names with slashes between them; one that begins with a slash starts at the
root.
-/

namespace ContentChecksum.Path

/-- The parts of a path between its slashes; some may be empty. -/
def split (path : String) : List String :=
  (path.toList.foldr (fun c parts =>
    if c = '/' then [] :: parts
    else match parts with
      | part :: parts => (c :: part) :: parts
      | [] => [[c]]) [[]]).map String.ofList

/-- The path of some parts: `split` takes it apart again. -/
def ofParts (parts : List String) : String :=
  "/".intercalate parts

/-- Whether a part names nothing: one that is empty, or a dot. -/
def isBlank (part : String) : Bool :=
  part = "" ∨ part = "."

/-- Whether a path starts at the root. -/
def isAbsolute (path : String) : Bool :=
  path.toList.head? = some '/'

/-- One path below another, with a slash between them if there is none yet. -/
def join (path below : String) : String :=
  if path.toList.isEmpty ∨ path.toList.getLast? = some '/' then path ++ below
  else path ++ "/" ++ below

/-- The path of the directory that the last part of a path is looked up in.  Behind a slash at the end
the last part is the empty one. -/
def parent (path : String) : String :=
  match (split path).dropLast with
  | [""] => "/"
  | parts => ofParts parts

end ContentChecksum.Path
