/-!
# The words of a command line

A command line is a list of words.  A word that begins with a dash is an option, except a lone
dash; a long option may have a value attached to it by an equals sign.  Any other word is an
operand, and so is every word that comes after `--`.

Each command has a `Form`, which says what it takes.  `scan` sorts the words that follow a command
by its form.  Nothing may be given twice.
-/

namespace ContentChecksum.Command

/-! ### Single words -/

/-- How a word reads, wherever it stands before `--`. -/
inductive Word
  | operand (text : String)
  | long (name : String) (value : Option String)
  /-- One or more options of one letter. -/
  | short (first : Char) (more : List Char)
  /-- The word `--`. -/
  | endOfOptions
deriving DecidableEq, Repr

namespace Word

/-- Read a word. -/
def ofText (text : String) : Word :=
  match text.toList with
  | ['-', '-'] => .endOfOptions
  | '-' :: '-' :: rest =>
    let name := String.ofList (rest.takeWhile (· ≠ '='))
    match rest.dropWhile (· ≠ '=') with
    | [] => .long name none
    | _ :: value => .long name (some (String.ofList value))
  | '-' :: first :: more => .short first more
  | _ => .operand text

/-- Whether a word can be taken for the value of the option before it. -/
def isOperand : Word → Bool
  | operand _ => true
  | _ => false

end Word

/-! ### What a command takes -/

/-- The options without a value. -/
inductive Flag
  | stream
  | text
  | rawLineEndings
  | json
deriving DecidableEq, Repr

/-- The name of a flag, as it is written behind two dashes. -/
def Flag.name : Flag → String
  | stream => "stream"
  | text => "text"
  | rawLineEndings => "raw-line-endings"
  | json => "json"

/-- What may follow the name of a command. -/
structure Form where
  flags : List Flag
  /-- Whether a file can be named. -/
  file : Bool
  /-- The most operands there can be. -/
  operands : Nat
deriving Repr

/-- What follows the name of a command, sorted. -/
structure Words where
  flags : List Flag
  file : Option String
  operands : List String
deriving DecidableEq, Repr

/-- No words. -/
def Words.none : Words :=
  ⟨[], .none, []⟩

/-! ### Errors -/

/-- What is wrong with a command line. -/
inductive Misuse
  | noCommand
  | unknownCommand (name : String)
  | unknownOption (word : String)
  | repeated (option : String)
  /-- A flag has a value. -/
  | unwantedValue (option : String)
  /-- An option has no value. -/
  | missingValue (option : String)
  | unexpectedOperand (text : String)
  | missingOperand (name : String)
  /-- Two things are given that exclude each other. -/
  | conflict (one other : String)
deriving DecidableEq, Repr

/-- The words for an error. -/
def Misuse.message : Misuse → String
  | noCommand => "a command is required"
  | unknownCommand name => "unrecognized command '" ++ name ++ "'"
  | unknownOption word | unexpectedOperand word => "unexpected argument '" ++ word ++ "' found"
  | repeated option => "the argument '" ++ option ++ "' cannot be used multiple times"
  | unwantedValue option => "a value for '" ++ option ++ "' was found but none was expected"
  | missingValue option => "a value is required for '" ++ option ++ "' but none was supplied"
  | missingOperand name => "the following required argument was not provided: " ++ name
  | conflict one other => "the argument '" ++ one ++ "' cannot be used with '" ++ other ++ "'"

/-- Why a command line gives no command. -/
inductive Refusal
  /-- Help was asked for. -/
  | help
  | misuse (error : Misuse)
deriving DecidableEq, Repr

/-- Refuse a command line for what is wrong with it. -/
def refuse {α : Type} (error : Misuse) : Except Refusal α :=
  .error (.misuse error)

/-! ### Sorting words -/

namespace Words

/-- One more flag. -/
def addFlag (w : Words) (flag : Flag) : Except Refusal Words :=
  if flag ∈ w.flags then refuse (.repeated ("--" ++ flag.name))
  else .ok { w with flags := w.flags ++ [flag] }

/-- The path of a file, which may not be empty. -/
def setFile (w : Words) (path : String) : Except Refusal Words :=
  if path = "" then refuse (.missingValue "--file")
  else if w.file.isSome then refuse (.repeated "--file")
  else .ok { w with file := some path }

/-- One more operand, if the form has room for it. -/
def addOperand (form : Form) (w : Words) (text : String) : Except Refusal Words :=
  if w.operands.length < form.operands then .ok { w with operands := w.operands ++ [text] }
  else refuse (.unexpectedOperand text)

/-- One more long option that stands for itself. -/
def addLong (form : Form) (w : Words) (name : String) (value : Option String) :
    Except Refusal Words :=
  match form.flags.find? (·.name = name), value with
  | some flag, .none => w.addFlag flag
  | some _, some _ => refuse (.unwantedValue ("--" ++ name))
  | .none, _ => refuse (.unknownOption ("--" ++ name))

/-- Sort words, from left to right.  The first thing that is wrong, or the first call for help, ends
it. -/
def scan (form : Form) (w : Words) : List String → Except Refusal Words
  | [] => .ok w
  | word :: rest =>
    match Word.ofText word with
    | .endOfOptions => rest.foldlM (addOperand form) w
    | .operand text => do scan form (← w.addOperand form text) rest
    | .short first _ => if first = 'h' then .error .help else refuse (.unknownOption word)
    | .long name value =>
      if name = "help" then
        if value.isNone then .error .help else refuse (.unwantedValue "--help")
      else if form.file ∧ name = "file" then
        match value, rest with
        | some path, rest => do scan form (← w.setFile path) rest
        | .none, path :: rest =>
          if (Word.ofText path).isOperand then do scan form (← w.setFile path) rest
          else refuse (.missingValue "--file")
        | .none, [] => refuse (.missingValue "--file")
      else do scan form (← w.addLong form name value) rest

end Words

end ContentChecksum.Command
