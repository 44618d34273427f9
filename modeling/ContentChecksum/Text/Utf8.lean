/-!
# UTF-8

Texts are hashed, stored and read as UTF-8.  `decode?` accepts exactly the well-formed byte
sequences, and `decode?_encode` says that it undoes `encode`.
-/

namespace ContentChecksum.Utf8

/-- The bytes of a text. -/
def encode (text : List Char) : List UInt8 :=
  text.flatMap String.utf8EncodeChar

/-- The text with the given bytes, if they are well formed. -/
def decode? (bytes : List UInt8) : Option (List Char) :=
  (String.fromUTF8? bytes.toByteArray).map String.toList

/-- The number of bytes of a text. -/
def size (text : List Char) : Nat :=
  (encode text).length

/-- The part of a text from one place to another, both counted in bytes, unless it would begin or
end inside a character. -/
def slice? (text : List Char) (start stop : Nat) : Option (List Char) :=
  decode? (((encode text).take stop).drop start)

@[simp] theorem encode_nil : encode [] = [] := rfl

@[simp] theorem encode_cons (c : Char) (text : List Char) :
    encode (c :: text) = String.utf8EncodeChar c ++ encode text := rfl

theorem toByteArray_encode (text : List Char) :
    (encode text).toByteArray = (String.ofList text).toByteArray :=
  rfl

/-- What `encode` writes is read back. -/
@[simp] theorem decode?_encode (text : List Char) : decode? (encode text) = some text := by
  rw [decode?, toByteArray_encode, String.fromUTF8?, dif_pos (String.ofList text).isValidUTF8]
  exact congrArg some String.toList_ofList

end ContentChecksum.Utf8
