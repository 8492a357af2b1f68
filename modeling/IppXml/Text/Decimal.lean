import IppXml.Text.Bytes

/-! Integers in decimal: how they are written, and which texts are read as one.

Numbers of this library are 64-bit signed integers; a text whose number is out of that
range is not read.
-/

namespace IppXml

/-- Whether the byte is an ASCII digit. -/
def isDigit (b : UInt8) : Bool :=
  0x30 ≤ b && b ≤ 0x39

/-- The value of an ASCII digit. -/
def digitValue (b : UInt8) : Nat :=
  b.toNat - 0x30

/-- A natural number in decimal. -/
def decimalNat (n : Nat) : Bytes :=
  (Nat.toDigits 10 n).flatMap String.utf8EncodeChar

/-- An integer in decimal, with a minus sign if it is negative. -/
def decimal : Int → Bytes
  | .ofNat n => decimalNat n
  | .negSucc n => 0x2D :: decimalNat (n + 1)

/-- The number that digits spell, the most significant first. -/
def digitsValue (digits : Bytes) : Nat :=
  digits.foldl (fun value d => value * 10 + digitValue d) 0

/-- Whether the integer fits into 64 bits with a sign. -/
def inInt64 (n : Int) : Bool :=
  -0x8000000000000000 ≤ n && n < 0x8000000000000000

/-- Digits, at least one and nothing else, as a natural number. -/
def readDigits? (text : Bytes) : Option Nat :=
  if text ≠ [] && text.all isDigit then some (digitsValue text) else none

/-- Splits an optional sign off: whether it is a minus, and what follows. -/
def splitSign : Bytes → Bool × Bytes
  | [] => (false, [])
  | b :: bs =>
      if b = 0x2D then (true, bs)
      else if b = 0x2B then (false, bs)
      else (false, b :: bs)

/-- An optional sign and digits as a 64-bit integer. -/
def readInteger? (text : Bytes) : Option Int :=
  let (negative, digits) := splitSign text
  (readDigits? digits).bind fun n =>
    let value : Int := if negative then -n else n
    if inInt64 value then some value else none

end IppXml
