import ContentChecksum.Toml.Moment

/-!
# Values in TOML

A value is a string, a number, a truth value, a date or time, an array or a table between braces.
The two that hold other values are read by loops over a reader of items; `value?` ties the knot,
with the depth that is still allowed as its measure.
-/

namespace ContentChecksum.Toml

/-- Read the items of an array behind its opening bracket: values with commas between them and any
space around each.  A comma may follow the last one. -/
def items? (item? : List Char → Option (Node × List Char)) : Nat → List Node → List Char →
    Option (List Node × List Char)
  | 0, _, _ => none
  | fuel + 1, seen, text =>
    match skipSpace fuel text with
    | ']' :: rest => some (seen.reverse, rest)
    | text => do
      let (node, rest) ← item? text
      match skipSpace fuel rest with
      | ',' :: rest => items? item? fuel (node :: seen) rest
      | ']' :: rest => return ((node :: seen).reverse, rest)
      | _ => none

/-- Read a key, its equals sign and its value. -/
def entry? (item? : List Char → Option (Node × List Char)) (room : Nat) (text : List Char) :
    Option ((List Key × Key × Node) × List Char) := do
  let ((path, key), rest) ← key? room text
  match rest with
  | '=' :: rest =>
    let (node, rest) ← item? (skipBlank rest)
    return ((path, key, node), rest)
  | _ => none

/-- Read the entries of a table behind its opening brace: they are all on one line, with commas
between them.  No comma follows the last one. -/
def entries? (item? : List Char → Option (Node × List Char)) : Nat → Table → List Char →
    Option (Table × List Char)
  | 0, _, _ => none
  | fuel + 1, t, text => do
    let ((path, key, node), rest) ← entry? item? fuel text
    let t ← t.addEntry true path key node
    match skipBlank rest with
    | ',' :: rest => entries? item? fuel t rest
    | '}' :: rest => return (t, rest)
    | _ => none

/-- Read a table behind its opening brace. -/
def braces? (item? : List Char → Option (Node × List Char)) (room : Nat) (text : List Char) :
    Option (Node × List Char) :=
  match skipBlank text with
  | '}' :: rest => some (.inline .explicit [], rest)
  | text =>
    (entries? item? room .empty text).map fun (t, rest) =>
      (.inline t.kind t.entries, rest)

/-- Read a value that holds others to at most the given depth. -/
def value? (room : Nat) : Nat → List Char → Option (Node × List Char)
  | depth, text =>
    match text with
    | '"' :: _ | '\'' :: _ => (string? room text).map fun (s, rest) => (.string s, rest)
    | 't' :: 'r' :: 'u' :: 'e' :: rest => some (.boolean true, rest)
    | 'f' :: 'a' :: 'l' :: 's' :: 'e' :: rest => some (.boolean false, rest)
    | '[' :: rest =>
      match depth with
      | 0 => none
      | depth + 1 =>
        (items? (value? room depth) room [] rest).map fun (nodes, rest) =>
          (.array nodes, rest)
    | '\x7b' :: rest =>
      match depth with
      | 0 => none
      | depth + 1 => braces? (value? room depth) room rest
    | _ =>
      match moment? text with
      | some rest => some (.moment, rest)
      | none => number? text

end ContentChecksum.Toml
