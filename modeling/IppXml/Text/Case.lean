import IppXml.Text.CaseTable
import IppXml.Text.Rune

/-! Upper and lower case of texts, character by character. A stray byte has no case: it
becomes U+FFFD.
-/

namespace IppXml

/-- The upper case of a character. -/
def upperChar (c : Char) : Char :=
  Char.ofNat (Text.mapCode Text.upperRuns c.toNat)

/-- The lower case of a character. -/
def lowerChar (c : Char) : Char :=
  Char.ofNat (Text.mapCode Text.lowerRuns c.toNat)

/-- The text in upper case. -/
def upper (text : Bytes) : Bytes :=
  ofChars ((chars text).map upperChar)

/-- The text in lower case. -/
def lower (text : Bytes) : Bytes :=
  ofChars ((chars text).map lowerChar)

end IppXml
