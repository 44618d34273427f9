import ContentChecksum.Newline.Text
import ContentChecksum.Text.Utf8
import ContentChecksum.Unicode.NormalForm

/-!
# The canonical form of a text

Before a text is hashed it is brought into a form that does not depend on how it was typed or
stored.  The order of the three steps is fixed: line breaks first, then the removal of replacement
characters, then canonical composition.
-/

namespace ContentChecksum.Text

/-- U+FFFD, which a lossy decoder leaves behind where it met bytes it could not read. -/
def replacement : Char :=
  Char.ofNat 0xFFFD

/-- The text that is put into composed form: line breaks unified, replacement characters gone. -/
def clean (text : List Char) : List Char :=
  (Newline.unify text).filter (· ≠ replacement)

/-- The canonical form of a text. -/
def canonical (text : List Char) : List Char :=
  Unicode.nfc (clean text)

/-- The bytes of the canonical form, which are what is hashed. -/
def canonicalBytes (text : List Char) : List UInt8 :=
  Utf8.encode (canonical text)

end ContentChecksum.Text
