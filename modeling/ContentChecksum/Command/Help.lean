import ContentChecksum.Command.Request

/-!
# Help

The texts that answer a call for help, and the line that follows the error of a command line that
was not understood.
-/

namespace ContentChecksum.Command

/-- One thing that is listed in a help text, and what there is to be said about it. -/
structure Entry where
  item : String
  explanation : String

/-- The entries of a list under its title, their explanations below each other. -/
def list (title : String) (entries : List Entry) : String :=
  let width := (entries.map (·.item.length)).foldl max 0
  "\n" ++ title ++ ":\n" ++ "".intercalate (entries.map fun e =>
    "  " ++ e.item ++ String.ofList (List.replicate (width - e.item.length) ' ') ++ "  " ++
      e.explanation ++ "\n")

/-- The entry of the option that asks for help. -/
def helpEntry : Entry :=
  ⟨"-h, --help", "Print help"⟩

/-- The options of the commands that hash content. -/
def inputEntries : List Entry := [
  ⟨"    --file <PATH>", "Checksum the contents of this file"⟩,
  ⟨"    --stream", "Hash raw bytes; only line endings are normalized"⟩,
  ⟨"    --text", "Decode input as UTF-8 and apply full text normalization"⟩,
  ⟨"    --raw-line-endings", "In stream mode, keep CR and CRLF as they are"⟩]

/-- The entry of the text on the command line. -/
def textEntry : Entry :=
  ⟨"[TEXT]", "Literal text to checksum. Stdin is read when neither TEXT nor --file is given"⟩

namespace Name

/-- What a command does. -/
def purpose : Name → String
  | compute => "Compute the checksum of text, a file, or stdin"
  | parse => "Show the version and digest of a stored checksum"
  | verify => "Compare a stored checksum against the current content"
  | version => "Print the current checksum algorithm version"

/-- How a command is written. -/
def usage : Name → String
  | compute => "changesum compute [OPTIONS] [TEXT]"
  | parse => "changesum parse [OPTIONS] <STORED>"
  | verify => "changesum verify [OPTIONS] <STORED> [TEXT]"
  | version => "changesum version"

/-- The operands and options of a command. -/
def entries : Name → List Entry × List Entry
  | compute => ([textEntry], inputEntries)
  | parse =>
    ([⟨"<STORED>", "Stored checksum, e.g. \"8:2cdf9876e74347162401315d34b83746\""⟩],
      [⟨"    --json", "Print as JSON"⟩])
  | verify => ([⟨"<STORED>", "Stored checksum to check against"⟩, textEntry], inputEntries)
  | version => ([], [])

end Name

/-- What asking for help does. -/
def helpPurpose : String :=
  "Print this message or the help of the given subcommand(s)"

/-- The text on a topic. -/
def Topic.text : Topic → String
  | program =>
    "changesum: versioned checksums for change content\n\nUsage: changesum <COMMAND>\n" ++
      list "Commands"
        (Name.all.map (fun name => ⟨name.text, name.purpose⟩) ++ [⟨"help", helpPurpose⟩]) ++
      list "Options" [helpEntry]
  | command name =>
    let (operands, options) := name.entries
    name.purpose ++ "\n\nUsage: " ++ name.usage ++ "\n" ++
      (if operands.isEmpty then "" else list "Arguments" operands) ++
      list "Options" (options ++ [helpEntry])
  | help =>
    helpPurpose ++ "\n\nUsage: changesum help [COMMAND]...\n" ++
      list "Arguments" [⟨"[COMMAND]...", "Print help for the subcommand(s)"⟩]

/-- The text for a command line that was not understood. -/
def Misuse.text (error : Misuse) : String :=
  "error: " ++ error.message ++ "\n\nUsage: changesum <COMMAND>\n\n" ++
    "For more information, try '--help'.\n"

end ContentChecksum.Command
