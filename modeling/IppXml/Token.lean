import IppXml.Text.Decimal
import IppXml.Text.Rune

/-! The lexical grammar of source tokens.

A token is a variable such as `GF@counter`, a constant such as `int@5`, a type name, a
label, or none of these. Patterns are tried in this order; they overlap only where a label
is spelled like a type name.
-/

namespace IppXml

/-- The lexical category of a token. -/
inductive Category where
  | invalid
  | var
  | constant
  | typeName
  | label
deriving DecidableEq

/-- The word for a category. -/
def Category.name : Category → String
  | invalid => "invalid"
  | var => "variable"
  | constant => "constant"
  | typeName => "type"
  | label => "label"

/-- The category with the given number; a number of no category means an invalid token. -/
def Category.ofCode (code : Int) : Category :=
  if code = 1 then var
  else if code = 2 then constant
  else if code = 3 then typeName
  else if code = 4 then label
  else invalid

namespace Token

/-- The sign between a frame or type and what follows it. -/
def atSign : UInt8 := 0x40

/-- Whether the byte is an ASCII letter. -/
def isLetter (b : UInt8) : Bool :=
  (0x41 ≤ b && b ≤ 0x5A) || (0x61 ≤ b && b ≤ 0x7A)

/-- The signs `_-&%*!?`, which count as letters in every identifier. -/
def isSign (b : UInt8) : Bool :=
  b = 0x5F || b = 0x2D || b = 0x26 || b = 0x25 || b = 0x2A || b = 0x21 || b = 0x3F

/-- A non-empty text of the given letters and of digits that does not begin with a digit.
-/
def isIdentifier (letter : UInt8 → Bool) : Bytes → Bool
  | [] => false
  | b :: bs => letter b && bs.all fun b => letter b || isDigit b

/-- The letters of variable names. -/
def isVariableLetter (b : UInt8) : Bool :=
  isLetter b || isSign b

/-- The letters of labels: those of variable names and the dollar sign. -/
def isLabelLetter (b : UInt8) : Bool :=
  isLetter b || isSign b || b = 0x24

/-- The frames a variable can live in. -/
def isFrame (text : Bytes) : Bool :=
  text = "GF" || text = "LF" || text = "TF"

/-- The names of types: `int`, `bool`, `string` and `nil`. -/
def isTypeName (text : Bytes) : Bool :=
  text = "int" || text = "bool" || text = "string" || text = "nil"

/-- A frame, the at sign and an identifier. -/
def isVariable (token : Bytes) : Bool :=
  match token.cutAt? atSign with
  | some (frame, name) => isFrame frame && isIdentifier isVariableLetter name
  | none => false

/-- An identifier that may hold dollar signs. -/
def isLabel (token : Bytes) : Bool :=
  isIdentifier isLabelLetter token

/-- One or more bytes, all in the class. -/
def isNumeral (digit : UInt8 → Bool) (text : Bytes) : Bool :=
  text ≠ [] && text.all digit

/-- Whether the byte is a hexadecimal digit. -/
def isHexDigit (b : UInt8) : Bool :=
  isDigit b || (0x41 ≤ b && b ≤ 0x46) || (0x61 ≤ b && b ≤ 0x66)

/-- Whether the byte is an octal digit. -/
def isOctalDigit (b : UInt8) : Bool :=
  0x30 ≤ b && b ≤ 0x37

/-- A decimal numeral, with or without a sign. -/
def isDecimalLiteral (text : Bytes) : Bool :=
  isNumeral isDigit (splitSign text).2

/-- A zero, the lower-case letter `mark` or its upper case, and a numeral. -/
def isMarkedLiteral (mark : UInt8) (digit : UInt8 → Bool) : Bytes → Bool
  | zero :: m :: digits =>
      zero = 0x30 && (m = mark || m = mark - 0x20) && isNumeral digit digits
  | _ => false

/-- The value of an integer constant: decimal, hexadecimal or octal. -/
def isIntegerLiteral (text : Bytes) : Bool :=
  isDecimalLiteral text || isMarkedLiteral 0x78 isHexDigit text
    || isMarkedLiteral 0x6F isOctalDigit text

/-- The backslash. -/
def backslash : UInt8 := 0x5C

/-- Whether every backslash begins an escape of three decimal digits. -/
def isEscaped : Bytes → Bool
  | [] => true
  | b :: bs =>
      if b = backslash then
        match bs with
        | d₁ :: d₂ :: d₃ :: rest =>
            isDigit d₁ && isDigit d₂ && isDigit d₃ && isEscaped rest
        | _ => false
      else isEscaped bs

end Token

/-- The characters an XML document can carry. -/
def isXmlChar (c : Char) : Bool :=
  let n := c.toNat
  n == 0x09 || n == 0x0A || n == 0x0D || (0x20 ≤ n && n ≤ 0xD7FF)
    || (0xE000 ≤ n && n ≤ 0xFFFD) || 0x10000 ≤ n

/-- Whether the rune is a character an XML document can carry. -/
def Rune.isXml : Rune → Bool
  | char c => isXmlChar c
  | stray _ => false

/-- Whether the text is UTF-8 and holds only characters an XML document can carry. -/
def isXmlText (text : Bytes) : Bool :=
  (runes text).all Rune.isXml

namespace Token

/-- The value of a string constant. -/
def isStringLiteral (text : Bytes) : Bool :=
  isEscaped text && isXmlText text

/-- A type, the at sign and a value of the type. -/
def isConstant (token : Bytes) : Bool :=
  match token.cutAt? atSign with
  | some (type, value) =>
      if type = "int" then isIntegerLiteral value
      else if type = "bool" then value = "true" || value = "false"
      else if type = "string" then isStringLiteral value
      else type = "nil" && value = "nil"
  | none => false

/-- The lexical category of a token. -/
def classify (token : Bytes) : Category :=
  if isVariable token then .var
  else if isConstant token then .constant
  else if isTypeName token then .typeName
  else if isLabel token then .label
  else .invalid

end Token

end IppXml
