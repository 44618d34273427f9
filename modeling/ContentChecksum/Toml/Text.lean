import ContentChecksum.Hex
import ContentChecksum.Toml.Node

/-!
# Blanks, comments, strings and keys in TOML

Every reader takes the text that is left and answers what it read and what is left behind it, or
`none` where the text is not TOML.  Control characters are allowed nowhere but in line breaks, and a
tab is not one of them.  Loops take a bound on the number of their turns, and every turn takes in a
character; where a reader is given `room`, that is no less than the number of characters left.
-/

namespace ContentChecksum.Toml

/-! ### Between the words -/

/-- Space inside a line. -/
def isBlank (c : Char) : Bool :=
  c = ' ' || c = '\t'

/-- Whether a character may stand in comments and strings: a tab, or no control character. -/
def isPlain (c : Char) : Bool :=
  c = '\t' || (' ' ≤ c && c.toNat ≠ 0x7F)

/-- What is left behind the space inside a line. -/
def skipBlank (text : List Char) : List Char :=
  text.dropWhile isBlank

/-- What is left behind a comment, if there is one. -/
def skipComment : List Char → List Char
  | '#' :: rest => rest.dropWhile isPlain
  | text => text

/-- What is left behind one line break, which is LF or CR LF. -/
def newline? : List Char → Option (List Char)
  | '\n' :: rest => some rest
  | '\r' :: '\n' :: rest => some rest
  | _ => none

/-- What is left behind the end of a line: space, a comment, and a line break or the end. -/
def lineEnd? (text : List Char) : Option (List Char) :=
  match skipComment (skipBlank text) with
  | [] => some []
  | rest => newline? rest

/-- What is left behind space, comments and line breaks; `fuel` bounds the number of lines. -/
def skipSpace : Nat → List Char → List Char
  | 0, text => text
  | fuel + 1, text =>
    match newline? (skipComment (skipBlank text)) with
    | some rest => skipSpace fuel rest
    | none => skipBlank text

/-- What is left behind space and line breaks; `fuel` bounds the number of lines. -/
def skipBreaks : Nat → List Char → List Char
  | 0, text => text
  | fuel + 1, text =>
    match newline? (skipBlank text) with
    | some rest => skipBreaks fuel rest
    | none => skipBlank text

/-! ### Strings -/

/-- The number that hexadecimal digits make. -/
def hexNumber? (digits : List Char) : Option Nat :=
  digits.foldlM (fun n c => (Hex.value? c).map (n * 16 + ·)) 0

/-- A character by its number, given in `count` hexadecimal digits. -/
def numberedChar? (count : Nat) (text : List Char) : Option (Char × List Char) :=
  let digits := text.take count
  if digits.length < count then none
  else do
    let n ← hexNumber? digits
    if n.isValidChar then return (Char.ofNat n, text.drop count) else none

/-- The character that an escape stands for, read behind its backslash. -/
def escaped? : List Char → Option (Char × List Char)
  | 'b' :: rest => some (Char.ofNat 0x08, rest)
  | 't' :: rest => some ('\t', rest)
  | 'n' :: rest => some ('\n', rest)
  | 'f' :: rest => some (Char.ofNat 0x0C, rest)
  | 'r' :: rest => some ('\r', rest)
  | '"' :: rest => some ('"', rest)
  | '\\' :: rest => some ('\\', rest)
  | 'u' :: rest => numberedChar? 4 rest
  | 'U' :: rest => numberedChar? 8 rest
  | _ => none

/-- Read a basic string behind its opening quote; what has been read is kept back to front, and
`fuel` bounds the number of characters. -/
def basicOnto : Nat → List Char → List Char → Option (List Char × List Char)
  | 0, _, _ => none
  | fuel + 1, seen, text =>
    match text with
    | '"' :: rest => some (seen.reverse, rest)
    | '\\' :: rest =>
      match escaped? rest with
      | some (c, rest) => basicOnto fuel (c :: seen) rest
      | none => none
    | c :: rest => if isPlain c then basicOnto fuel (c :: seen) rest else none
    | [] => none

/-- Read a literal string behind its opening quote. -/
def literal? (text : List Char) : Option (List Char × List Char) :=
  match text.span fun c => isPlain c && c ≠ '\'' with
  | (content, '\'' :: rest) => some (content, rest)
  | _ => none

/-- Read a string of several lines up to its three closing quotes, of which one or two more may
stand before them and belong to the string.  Line breaks become LF.  Escapes are known where
`escapes` is set, and a backslash at the end of a line then swallows all space up to the next
word. -/
def multilineOnto (quote : Char) (escapes : Bool) :
    Nat → List Char → List Char → Option (List Char × List Char)
  | 0, _, _ => none
  | fuel + 1, seen, text =>
    let quotes := (text.takeWhile (· = quote)).length
    if 3 ≤ quotes then
      let extra := min (quotes - 3) 2
      some (seen.reverse ++ List.replicate extra quote, text.drop (extra + 3))
    else
      match newline? text with
      | some rest => multilineOnto quote escapes fuel ('\n' :: seen) rest
      | none =>
        match text with
        | [] => none
        | c :: rest =>
          if c = '\\' ∧ escapes then
            match newline? (skipBlank rest) with
            | some rest => multilineOnto quote escapes fuel seen (skipBreaks fuel rest)
            | none =>
              match escaped? rest with
              | some (c, rest) => multilineOnto quote escapes fuel (c :: seen) rest
              | none => none
          else if isPlain c then multilineOnto quote escapes fuel (c :: seen) rest
          else none

/-- Read a string of several lines behind its three opening quotes.  A line break right behind them
does not belong to the string. -/
def multiline? (quote : Char) (escapes : Bool) (room : Nat) (text : List Char) :
    Option (List Char × List Char) :=
  multilineOnto quote escapes room [] ((newline? text).getD text)

/-- Read a string of any kind. -/
def string? (room : Nat) : List Char → Option (List Char × List Char)
  | '"' :: '"' :: '"' :: rest => multiline? '"' true room rest
  | '"' :: rest => basicOnto room [] rest
  | '\'' :: '\'' :: '\'' :: rest => multiline? '\'' false room rest
  | '\'' :: rest => literal? rest
  | _ => none

/-! ### Keys -/

/-- Whether a character may stand in a key without quotes. -/
def isBare (c : Char) : Bool :=
  c.isAlphanum || c = '-' || c = '_'

/-- Read one part of a key: a word, or a string of one line. -/
def simpleKey? (room : Nat) : List Char → Option (Key × List Char)
  | '"' :: rest => basicOnto room [] rest
  | '\'' :: rest => literal? rest
  | text =>
    match text.span isBare with
    | ([], _) => none
    | (key, rest) => some (key, rest)

/-- Read the parts of a key, with dots between them and space around each; `fuel` bounds their
number. -/
def keyParts? (room : Nat) : Nat → List Char → Option (List Key × List Char)
  | 0, _ => none
  | fuel + 1, text => do
    let (key, rest) ← simpleKey? room (skipBlank text)
    match skipBlank rest with
    | '.' :: rest =>
      let (keys, rest) ← keyParts? room fuel rest
      return (key :: keys, rest)
    | rest => return ([key], rest)

/-- A key has fewer parts, and values are nested less deeply, than this. -/
def depthLimit : Nat := 80

/-- Read a key: the path of all its parts but the last, and the last. -/
def key? (room : Nat) (text : List Char) : Option ((List Key × Key) × List Char) := do
  let (keys, rest) ← keyParts? room (depthLimit - 1) text
  let last ← keys.getLast?
  return ((keys.dropLast, last), rest)

end ContentChecksum.Toml
