import IppXml.Text.Decimal
import IppXml.Text.Rune
import IppXml.Token
import IppXml.Xml.NameTable

/-! Names of elements and attributes. -/

namespace IppXml.Xml

/-- A name with an optional namespace in front of a colon. -/
structure Name where
  space : Bytes
  base : Bytes
deriving DecidableEq

/-- The colon. -/
def colon : UInt8 := 0x3A

/-- Bytes that continue a name: letters, digits, `_:.-` and all beyond ASCII. -/
def isNameByte (b : UInt8) : Bool :=
  0x80 ≤ b || Token.isLetter b || isDigit b || b = 0x5F || b = colon || b = 0x2E
    || b = 0x2D

/-- Characters that may begin a name. -/
def isNameStart (c : Char) : Bool :=
  if c.toNat < 0x80 then c.isAlpha || c = '_' || c = ':'
  else Text.inIntervals nameStartIntervals c.toNat

/-- Characters that may stand inside a name. -/
def isNameChar (c : Char) : Bool :=
  isNameStart c
    || if c.toNat < 0x80 then c.isDigit || c = '.' || c = '-'
      else Text.inIntervals nameRestIntervals c.toNat

/-- Whether the rune is a character of the class. -/
def runeSatisfies (p : Char → Bool) : Rune → Bool
  | .char c => p c
  | .stray _ => false

/-- Whether the text is a name, colons counting as letters. -/
def isName (text : Bytes) : Bool :=
  match runes text with
  | [] => false
  | r :: rs => runeSatisfies isNameStart r && rs.all (runeSatisfies isNameChar)

/-- Splits a name at its colon. A colon at either end belongs to the name, and two colons
are one too many.
-/
def Name.ofText? (text : Bytes) : Option Name :=
  if 1 < text.count colon then none
  else
    match text.cutAt? colon with
    | some (space, base) =>
        if space = [] || base = [] then some ⟨[], text⟩ else some ⟨space, base⟩
    | none => some ⟨[], text⟩

/-- Reads a name, colons counting as letters, and returns it with what follows. -/
def readText? (input : Bytes) : Option (Bytes × Bytes) :=
  let text := input.takeWhile isNameByte
  if isName text then some (text, input.dropWhile isNameByte) else none

/-- Reads a name and returns it with what follows. -/
def readName? (input : Bytes) : Option (Name × Bytes) := do
  let (text, rest) ← readText? input
  let name ← Name.ofText? text
  return (name, rest)

/-- The white space of markup. -/
def isSpace (b : UInt8) : Bool :=
  b = 0x20 || b = 0x0D || b = 0x0A || b = 0x09

/-- The input behind the white space it begins with. -/
def skipSpace (input : Bytes) : Bytes :=
  input.dropWhile isSpace

/-- The input behind the byte that it has to begin with. -/
def expect? (b : UInt8) : Bytes → Option Bytes
  | [] => none
  | x :: rest => if x = b then some rest else none

end IppXml.Xml
