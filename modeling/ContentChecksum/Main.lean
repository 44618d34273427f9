import ContentChecksum.Program
import Std.Time.DateTime.Timestamp

/-!
# The command line program

The host that is the system itself, and `main`.  A file is read as a whole when it is opened; what
goes wrong with an operation of the system becomes a `Fault` with the system's own words.
-/

namespace ContentChecksum.Native

/-- The kind of fault that an error number of the system stands for. -/
def kindOfNumber (number : UInt32) : Fault.Kind :=
  match number.toNat with
  | 1 | 13 => .permissionDenied
  | 2 => .notFound
  | 4 => .interrupted
  | 11 => .wouldBlock
  | 17 => .alreadyExists
  | 20 => .notADirectory
  | 21 => .isADirectory
  | 22 => .invalidInput
  | 32 => .brokenPipe
  | 36 => .invalidFilename
  | 104 => .connectionReset
  | 110 => .timedOut
  | _ => .other

/-- The fault for an error number and its description. -/
def fault (number : UInt32) (description : String) : Fault :=
  ⟨kindOfNumber number, description ++ " (os error " ++ Text.numeral number.toNat ++ ")"⟩

/-- The fault that an operation of the system ended with. -/
def faultOf : IO.Error → Fault
  | .alreadyExists _ n text | .noFileOrDirectory _ n text | .interrupted _ n text
  | .invalidArgument _ n text | .permissionDenied _ n text | .resourceExhausted _ n text
  | .inappropriateType _ n text | .noSuchThing _ n text | .otherError n text
  | .resourceBusy n text | .resourceVanished n text | .unsupportedOperation n text
  | .hardwareFault n text | .unsatisfiedConstraints n text | .illegalOperation n text
  | .protocolError n text | .timeExpired n text => fault n text
  | .unexpectedEof => ⟨.unexpectedEof, "unexpected end of file"⟩
  | .userError text => ⟨.other, text⟩

/-- Do something, and report the fault it ended with, if it did. -/
def attempt {α : Type} (operation : IO α) : IO (Except Fault α) := do
  try return .ok (← operation)
  catch error => return .error (faultOf error)

/-- Whether a path leads to anything. -/
def leadsSomewhere (path : String) : IO Bool := do
  return (← attempt (IO.FS.realPath path)).toOption.isSome

/-- Write bytes to a file that is opened in some mode. -/
def put (mode : IO.FS.Mode) (path : String) (bytes : List UInt8) : IO (Except Fault Unit) :=
  attempt do
    let handle ← IO.FS.Handle.mk path mode
    handle.write bytes.toByteArray
    handle.flush

/-- The source that reading a stream to its end gives. -/
def sourceOf (readToEnd : IO ByteArray) : IO Source := do
  match ← attempt readToEnd with
  | .ok bytes => return .ofBytes bytes.toList
  | .error fault => return .ofFault fault

instance : Host IO where
  makeDirectory path := attempt (IO.FS.createDir path)
  isDirectory path := leadsSomewhere (path ++ "/.")
  has := leadsSomewhere
  openSource path := do
    match ← attempt (IO.FS.Handle.mk path .read) with
    | .error fault => return .error fault
    | .ok handle => return .ok (← sourceOf handle.readBinToEnd)
  append := put .append
  write := put .write
  input := do sourceOf (← IO.getStdin).readBinToEnd
  print text := do (← IO.getStdout).putStr text
  printError text := do (← IO.getStderr).putStr text
  now := do return (← Std.Time.Timestamp.now).toNanosecondsSinceUnixEpoch.val.toNat / 1000

/-- The environment of the running program. -/
def environment : IO Environment :=
  return ⟨← IO.getEnv "HOME", ← IO.getEnv "XDG_CONFIG_HOME", ← IO.getEnv "XDG_STATE_HOME",
    ← IO.getEnv "RUST_LOG"⟩

end ContentChecksum.Native

/-- Run the program on the arguments it was started with. -/
def main (arguments : List String) : IO UInt32 :=
  return (← ContentChecksum.run (m := IO) (← ContentChecksum.Native.environment) arguments).code
