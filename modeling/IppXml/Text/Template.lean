import IppXml.Text.Decimal
import IppXml.Text.Rune

/-! Templates that have no values to be filled with.

A place of a template is a percent sign, flags, the index of a value, a width, a precision
and a letter; all but the sign and the letter may be missing. Where a value would stand,
the text says what the place lacks. A place with a percent sign for its letter is that
sign.
-/

namespace IppXml

/-- A place under way: what has been written for it and what has not been read. -/
structure Place where
  rest : Bytes
  written : Bytes := []
  /-- Whether an index has been asked for; there are no values, so it cannot be right. -/
  isIndexed : Bool := false
  /-- Whether a well-formed index stands right before the rest. -/
  isBehindIndex : Bool := false
deriving DecidableEq

namespace Place

/-- The flags. -/
def flags : Bytes := "#0+- "

/-- A number with more digits behind this one is not read. -/
def numberLimit : Nat := 1000000

/-- Whether digits spell a number that is read. -/
def isReadable (digits : Bytes) : Bool :=
  digitsValue digits.dropLast ≤ numberLimit

/-- What follows the digits at the head of a text. A number that is not read takes
everything with it.
-/
def skipNumber (text : Bytes) : Bytes :=
  if isReadable (text.takeWhile isDigit) then text.dropWhile isDigit else []

/-- Whether the text between brackets is a number. -/
def isIndex (text : Bytes) : Bool :=
  text ≠ [] && text.all isDigit && isReadable text

/-- What is read behind the opening bracket of an index: whether the index is well-formed,
and the rest. Without a closing bracket, or with nothing but that, only the opening one is
taken.
-/
def closeIndex (text : Bytes) : Bool × Bytes :=
  if text.length < 2 then (false, text)
  else
    match text.cutAt? 0x5D with
    | none => (false, text)
    | some (inner, after) => (isIndex inner, after)

/-- Reads flags. -/
def readFlags (p : Place) : Place :=
  { p with rest := p.rest.dropWhile flags.contains }

/-- Reads an index, if there is one. -/
def readIndex (p : Place) : Place :=
  match p.rest with
  | 0x5B :: text =>
      let (isBehindIndex, rest) := closeIndex text
      { p with rest, isIndexed := true, isBehindIndex }
  | _ => { p with isBehindIndex := false }

/-- Reads a number, or a star for a value; the complaint is for a star. -/
def readNumber (complaint : Bytes) (p : Place) : Place :=
  match p.rest with
  | 0x2A :: rest =>
      { p with rest, written := p.written ++ complaint, isBehindIndex := false }
  | rest => { p with rest := skipNumber rest }

/-- Reads a precision, if there is one. -/
def readPrecision (p : Place) : Place :=
  match p.rest with
  | 0x2E :: rest => ({ p with rest }.readIndex).readNumber "%!(BADPREC)"
  | _ => p

/-- Reads a second index, unless one has just been read. -/
def readLateIndex (p : Place) : Place :=
  if p.isBehindIndex then p else p.readIndex

/-- What a place with the given letter is shown as. -/
def shown (p : Place) (letter : Char) : Bytes :=
  let lack : Bytes := if p.isIndexed then "(BADINDEX)" else "(MISSING)"
  if letter = '%' then "%" else "%!" ++ String.utf8EncodeChar letter ++ lack

/-- Reads the letter, which ends the place. -/
def readLetter (p : Place) : Place :=
  match p.rest with
  | [] => { p with written := p.written ++ "%!(NOVERB)" }
  | b :: bs =>
      let (letter, size) := headRune b bs
      { p with rest := bs.drop (size - 1), written := p.written ++ p.shown letter.toChar }

/-- The place that is read behind a percent sign. -/
def read (text : Bytes) : Place :=
  let p := ({ rest := text : Place }.readFlags.readIndex).readNumber "%!(BADWIDTH)"
  p.readPrecision.readLateIndex.readLetter

end Place

/-- What stands for the head of a template, and the number of bytes that it stands for. -/
def headPlace (b : UInt8) (bs : Bytes) : Bytes × Nat :=
  if b = 0x25 then
    let place := Place.read bs
    (place.written, bs.length + 1 - place.rest.length)
  else ([b], 1)

/-- A template with no values in its places. -/
def fillNothing (template : Bytes) : Bytes :=
  (Text.pieces headPlace template).flatten

end IppXml
