import IppXml.Text.Rune

/-! White space: which characters are blank, the words of a text, and texts without blanks
at their ends. A stray byte is never blank.
-/

namespace IppXml

/-- The Unicode white space characters. -/
def isBlankChar (c : Char) : Bool :=
  let n := c.toNat
  (0x09 ≤ n && n ≤ 0x0D) || n == 0x20 || n == 0x85 || n == 0xA0 || n == 0x1680
    || (0x2000 ≤ n && n ≤ 0x200A) || n == 0x2028 || n == 0x2029 || n == 0x202F
    || n == 0x205F || n == 0x3000

/-- Whether the rune is a white space character. -/
def Rune.isBlank : Rune → Bool
  | char c => isBlankChar c
  | stray _ => false

/-- Splits runes at blanks; neighbouring blanks leave empty parts. -/
def splitBlank : List Rune → List (List Rune)
  | [] => [[]]
  | r :: rs =>
      if r.isBlank then [] :: splitBlank rs
      else
        match splitBlank rs with
        | [] => [[r]]
        | word :: words => (r :: word) :: words

/-- The words of a text: its longest runs without white space. -/
def words (text : Bytes) : List Bytes :=
  ((splitBlank (runes text)).filter (· ≠ [])).map ofRunes

/-- The runes without blanks at either end. -/
def trimRunes (rs : List Rune) : List Rune :=
  ((rs.dropWhile Rune.isBlank).reverse.dropWhile Rune.isBlank).reverse

/-- The text without white space at either end. -/
def trim (text : Bytes) : Bytes :=
  ofRunes (trimRunes (runes text))

/-- Whether the text holds white space only. -/
def isBlank (text : Bytes) : Bool :=
  (runes text).all Rune.isBlank

end IppXml
