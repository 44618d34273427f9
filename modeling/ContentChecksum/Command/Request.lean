import ContentChecksum.Command.Basic
import ContentChecksum.Command.Words

/-!
# Reading a command line

A command line begins with the name of a command, and the words behind it are sorted by the form
that belongs to the name.  A text on the command line and a file exclude each other, and so do the
two modes; with neither text nor file, the standard input is read.

Help can be asked for instead: about the program, or about a command.
-/

namespace ContentChecksum.Command

/-! ### Names -/

/-- The names of the commands. -/
inductive Name
  | compute
  | parse
  | verify
  | version
deriving DecidableEq, Repr

namespace Name

/-- A name as it is written. -/
def text : Name → String
  | compute => "compute"
  | parse => "parse"
  | verify => "verify"
  | version => "version"

/-- All names. -/
def all : List Name :=
  [compute, parse, verify, version]

/-- The name that is written so. -/
def ofText? (text : String) : Option Name :=
  all.find? (·.text = text)

/-- What may follow a name. -/
def form : Name → Form
  | compute => ⟨[.stream, .text, .rawLineEndings], true, 1⟩
  | parse => ⟨[.json], false, 1⟩
  | verify => ⟨[.stream, .text, .rawLineEndings], true, 2⟩
  | version => ⟨[], false, 0⟩

end Name

/-! ### From words to commands -/

/-- Where content comes from, for a text and a path that may be given. -/
def Origin.select (text path : Option String) : Except Refusal Origin :=
  match text, path with
  | none, none => .ok .standardInput
  | some text, none => .ok (.argument text)
  | none, some path => .ok (.file path)
  | some _, some _ => refuse (.conflict "--file <PATH>" "[TEXT]")

/-- The mode that flags ask for. -/
def requestedMode (flags : List Flag) : Except Refusal (Option InputMode) :=
  if Flag.stream ∈ flags ∧ Flag.text ∈ flags then refuse (.conflict "--stream" "--text")
  else if Flag.stream ∈ flags then .ok (some .stream)
  else if Flag.text ∈ flags then .ok (some .text)
  else .ok none

/-- The content that sorted words tell of. -/
def Input.ofWords (w : Words) (text : Option String) : Except Refusal Input := do
  let origin ← Origin.select text w.file
  let requested ← requestedMode w.flags
  return ⟨origin, requested, Flag.rawLineEndings ∈ w.flags⟩

/-- The command of a name and the sorted words behind it. -/
def ofWords (name : Name) (w : Words) : Except Refusal Command :=
  match name, w.operands with
  | .compute, operands => compute <$> Input.ofWords w operands.head?
  | .parse, stored :: _ => .ok (parse stored (Flag.json ∈ w.flags))
  | .verify, stored :: operands => verify stored <$> Input.ofWords w operands.head?
  | .version, _ => .ok version
  | .parse, [] | .verify, [] => refuse (.missingOperand "<STORED>")

/-! ### Requests -/

/-- What help can be asked about. -/
inductive Topic
  | program
  | command (name : Name)
  /-- The help itself. -/
  | help
deriving DecidableEq, Repr

/-- The topic that the words behind `help` lead to. -/
def Topic.ofWords : List String → Except Misuse Topic
  | [] => .ok .program
  | word :: rest =>
    match (if word = "help" then some .help else (Name.ofText? word).map command), rest with
    | none, _ => .error (.unknownCommand word)
    | some topic, [] => .ok topic
    | some _, next :: _ => .error (.unknownCommand next)

/-- What a command line asks for. -/
inductive Request
  | run (command : Command)
  | help (topic : Topic)
deriving DecidableEq, Repr

/-- The request of the words behind a name. -/
def Request.ofWords (name : Name) (words : List String) : Except Misuse Request :=
  match Words.scan name.form .none words >>= Command.ofWords name with
  | .ok command => .ok (.run command)
  | .error .help => .ok (.help (.command name))
  | .error (.misuse error) => .error error

/-- The request of a command line. -/
def Request.ofLine : List String → Except Misuse Request
  | [] => .error .noCommand
  | first :: rest =>
    match Name.ofText? first with
    | some name => ofWords name rest
    | none =>
      if first = "help" then help <$> Topic.ofWords rest
      else
        match Word.ofText first with
        | .long "help" none | .short 'h' _ => .ok (.help .program)
        | .operand _ => .error (.unknownCommand first)
        | _ => .error (.unknownOption first)

end ContentChecksum.Command
