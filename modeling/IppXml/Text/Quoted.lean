import IppXml.Text.Printable
import IppXml.Text.Rune

/-! Texts in double quotes, and characters in single quotes, for messages.

What cannot be shown is written as an escape, so that a quoted text is one line of
printable characters, whatever the text holds.
-/

namespace IppXml

/-- The lower-case hexadecimal digits of a number, with zeros in front up to `count`
digits.
-/
def hexDigits : (count : Nat) → Nat → Bytes
  | 0, _ => []
  | count + 1, n =>
      hexDigits count (n / 16) ++ String.utf8EncodeChar (Nat.digitChar (n % 16))

/-- The escapes that are a letter after the backslash. -/
def letterEscape? (c : Char) : Option Char :=
  match c.toNat with
  | 0x07 => some 'a'
  | 0x08 => some 'b'
  | 0x09 => some 't'
  | 0x0A => some 'n'
  | 0x0B => some 'v'
  | 0x0C => some 'f'
  | 0x0D => some 'r'
  | _ => none

/-- A character inside the quotes `quote`. -/
def quotedChar (quote c : Char) : Bytes :=
  if c = quote || c = '\\' then 0x5C :: String.utf8EncodeChar c
  else if isPrintable c then String.utf8EncodeChar c
  else
    match letterEscape? c with
    | some letter => 0x5C :: String.utf8EncodeChar letter
    | none =>
        if c.toNat < 0x80 then "\\x" ++ hexDigits 2 c.toNat
        else if c.toNat < 0x10000 then "\\u" ++ hexDigits 4 c.toNat
        else "\\U" ++ hexDigits 8 c.toNat

/-- A rune inside double quotes. -/
def Rune.quoted : Rune → Bytes
  | char c => quotedChar '"' c
  | stray b => "\\x" ++ hexDigits 2 b.toNat

/-- The text in double quotes. -/
def quote (text : Bytes) : Bytes :=
  "\"" ++ (runes text).flatMap Rune.quoted ++ "\""

/-- The character in single quotes. -/
def quoteChar (c : Char) : Bytes :=
  "\x27" ++ quotedChar '\x27' c ++ "\x27"

end IppXml
