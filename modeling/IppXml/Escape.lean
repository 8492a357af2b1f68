import IppXml.Token

/-! Escapes in string constants: a backslash and three decimal digits stand for the
character with that code.
-/

namespace IppXml

/-- Why the escapes of a text cannot be decoded. -/
inductive EscapeFault where
  /-- Fewer than three bytes follow the backslash at the offset. -/
  | truncated (offset : Nat)
  /-- The three bytes after a backslash are not all digits. -/
  | invalid (escape : Bytes)
deriving DecidableEq

namespace Escape

/-- The text of the character whose code the three digits spell. -/
def charOfDigits (d₁ d₂ d₃ : UInt8) : Bytes :=
  String.utf8EncodeChar (Char.ofNat (digitsValue [d₁, d₂, d₃]))

/-- Decodes the escapes of a text that begins at the given offset of a longer one. -/
def decodeAt (offset : Nat) : Bytes → Except EscapeFault Bytes
  | [] => .ok []
  | b :: bs =>
      if b = Token.backslash then
        match bs with
        | d₁ :: d₂ :: d₃ :: rest =>
            if isDigit d₁ && isDigit d₂ && isDigit d₃ then
              (decodeAt (offset + 4) rest).map (charOfDigits d₁ d₂ d₃ ++ ·)
            else .error (.invalid [b, d₁, d₂, d₃])
        | _ => .error (.truncated offset)
      else (decodeAt (offset + 1) bs).map (b :: ·)

/-- The text with every escape replaced by the character it stands for. A text without
backslashes is not gone through.
-/
def decode (text : Bytes) : Except EscapeFault Bytes :=
  if Token.backslash ∈ text then decodeAt 0 text else .ok text

end Escape

end IppXml
