import ContentChecksum.Reader.Basic

/-!
# Faults of a file system

The faults that operations on files and directories can meet, with the words the system has for
them.
-/

namespace ContentChecksum.Fault

def notFound : Fault :=
  ⟨.notFound, "No such file or directory (os error 2)"⟩

def alreadyExists : Fault :=
  ⟨.alreadyExists, "File exists (os error 17)"⟩

def notADirectory : Fault :=
  ⟨.notADirectory, "Not a directory (os error 20)"⟩

def isADirectory : Fault :=
  ⟨.isADirectory, "Is a directory (os error 21)"⟩

def nameTooLong : Fault :=
  ⟨.invalidFilename, "File name too long (os error 36)"⟩

/-- A path that holds a null character names nothing. -/
def nullInName : Fault :=
  ⟨.invalidInput, "file name contained an unexpected NUL byte"⟩

/-- A text was expected and the bytes are not UTF-8. -/
def notUtf8 : Fault :=
  ⟨.invalidData, "stream did not contain valid UTF-8"⟩

end ContentChecksum.Fault
