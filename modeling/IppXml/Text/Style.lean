import IppXml.Sorting
import IppXml.Text.Control
import IppXml.Text.Decimal

/-! Styles: the codes, such as those for bold or red, that control sequences of a text
leave switched on.
-/

namespace IppXml

/-- The codes that are switched on, in ascending sequence. -/
structure Style where
  codes : List Int := []
deriving DecidableEq

/-- The sequence that switches all codes off. -/
def resetStyle : Bytes := "\x1b[0m"

namespace Style

/-- The codes that a code switches off, if that is what it does. -/
def cancelled? (code : Int) : Option (List Int) :=
  if code = 22 then some [1, 2]
  else if code = 23 then some [3]
  else if code = 24 then some [4]
  else if code = 25 then some [5, 6]
  else if code = 27 then some [7]
  else if code = 29 then some [9]
  else none

/-- The style behind a code. -/
def apply (style : Style) (code : Int) : Style :=
  if code = 0 then {}
  else
    match cancelled? code with
    | some off => { codes := style.codes.filter (· ∉ off) }
    | none =>
        if code ∈ style.codes then style
        else { codes := insertSorted (fun a b => decide (a ≤ b)) code style.codes }

/-- The text without the first occurrence of a pattern. -/
def withoutFirst (pattern text : Bytes) : Bytes :=
  match Bytes.cutAround? pattern text with
  | some (before, after) => before ++ after
  | none => text

/-- The fields of a control sequence, with semicolons between them. -/
def fields (sequence : ControlSequence) : List Bytes :=
  let inner :=
    if sequence.isStyle then withoutFirst "m" (withoutFirst "\x1b[" sequence.text)
    else withoutFirst "\\" (withoutFirst "\x1b]" sequence.text)
  inner.splitOn 0x3B

/-- The style behind a control sequence; fields that are no numbers do not count. -/
def applySequence (style : Style) (sequence : ControlSequence) : Style :=
  ((fields sequence).filterMap readInteger?).foldl apply style

/-- The style behind a text. -/
def applyText (style : Style) (text : Bytes) : Style :=
  (controlSequences text).foldl applySequence style

/-- The sequence that switches the codes on; empty if there are none. -/
def text (style : Style) : Bytes :=
  if style.codes = [] then []
  else "\x1b[" ++ Bytes.join ";" (style.codes.map decimal) ++ "m"

end Style

end IppXml
