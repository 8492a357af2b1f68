import IppXml.Text.Pieces
import IppXml.Token

/-! Character data: references, line ends, and how texts are escaped. -/

namespace IppXml.Xml

/-- The ampersand, which begins a reference. -/
def ampersand : UInt8 := 0x26

/-- The semicolon, which ends a reference. -/
def semicolon : UInt8 := 0x3B

/-- The value of a hexadecimal digit. -/
def hexValue (b : UInt8) : Nat :=
  if isDigit b then digitValue b
  else if b < 0x61 then b.toNat - 0x41 + 10
  else b.toNat - 0x61 + 10

/-- The character with a code. Surrogates give U+FFFD, and there is none above U+10FFFF.
-/
def charOfCode? (code : Nat) : Option Char :=
  if 0x10FFFF < code then none
  else if 0xD800 ≤ code && code ≤ 0xDFFF then some Rune.replacement
  else some (Char.ofNat code)

/-- The number that digits of a base spell. -/
def numeralValue (base : Nat) (value : UInt8 → Nat) (digits : Bytes) : Nat :=
  digits.foldl (fun n d => n * base + value d) 0

/-- The code of a numeric reference: what follows its number sign. -/
def codeOfNumeral? : Bytes → Option Nat
  | [] => none
  | b :: bs =>
      if b = 0x78 then
        if Token.isNumeral Token.isHexDigit bs then some (numeralValue 16 hexValue bs)
        else none
      else if Token.isNumeral isDigit (b :: bs) then
        some (numeralValue 10 digitValue (b :: bs))
      else none

/-- The character a reference stands for, from what is between ampersand and semicolon. -/
def charOfReference? (reference : Bytes) : Option Char :=
  if reference = "lt" then some '<'
  else if reference = "gt" then some '>'
  else if reference = "amp" then some '&'
  else if reference = "apos" then some '\x27'
  else if reference = "quot" then some '"'
  else
    match reference with
    | [] => none
    | b :: bs => if b = 0x23 then (codeOfNumeral? bs).bind charOfCode? else none

/-- What the head of raw character data stands for and how many bytes it takes. A carriage
return, alone or in front of a line feed, is a line feed; references count only if asked
for.
-/
def headData (references : Bool) (b : UInt8) (bs : Bytes) : Option Bytes × Nat :=
  if references && b = ampersand then
    match bs.cutAt? semicolon with
    | some (reference, _) =>
        ((charOfReference? reference).map String.utf8EncodeChar, reference.length + 2)
    | none => (none, 1)
  else if b = 0x0D then (some [0x0A], if bs.head? = some 0x0A then 2 else 1)
  else (some [b], 1)

/-- The text that raw character data stands for; it must be text a document can carry. -/
def charData? (references : Bool) (raw : Bytes) : Option Bytes := do
  let parts ← (Text.pieces (headData references) raw).mapM id
  let text := parts.flatten
  if isXmlText text then some text else none

/-- The sequence that ends a section of unparsed character data. -/
def sectionEnd : Bytes := "]]>"

/-- The text of element content, in which the end of a section may not occur. -/
def contentText? (raw : Bytes) : Option Bytes :=
  if raw.includes sectionEnd then none else charData? true raw

/-- A character as it is written in texts and attributes. What a document cannot carry is
written as U+FFFD.
-/
def escapeChar (c : Char) : Bytes :=
  if c = '"' then "&#34;"
  else if c = '\x27' then "&#39;"
  else if c = '&' then "&amp;"
  else if c = '<' then "&lt;"
  else if c = '>' then "&gt;"
  else if c = '\t' then "&#x9;"
  else if c = '\n' then "&#xA;"
  else if c = '\r' then "&#xD;"
  else String.utf8EncodeChar (if isXmlChar c then c else Rune.replacement)

/-- A text as it is written in texts and attributes. -/
def escape (text : Bytes) : Bytes :=
  (chars text).flatMap escapeChar

end IppXml.Xml
