import IppXml.Text.Control
import IppXml.Text.WidthTable

/-! The number of terminal columns that a text takes. -/

namespace IppXml

/-- The columns of a character: none, one or two. -/
def charWidth (c : Char) : Nat :=
  let n := c.toNat
  if n < 0x20 || (0x7F ≤ n && n ≤ 0x9F) || n == 0xAD then 0
  else if n < 0x300 then 1
  else if Text.inIntervals Text.narrowColumns n then 1
  else if Text.inIntervals Text.invisibleColumns n then 0
  else if Text.inIntervals Text.combiningColumns n then 0
  else if Text.inIntervals Text.wideColumns n then 2
  else 1

/-- The columns of a character where a scan stands; inside of a control sequence there are
none.
-/
def ControlScan.width (scan : ControlScan) (c : Char) : Nat :=
  if scan = .plain && c ≠ escapeSign then charWidth c else 0

/-- The columns of characters from where a scan stands. -/
def columnsFrom : ControlScan → List Char → Nat
  | _, [] => 0
  | scan, c :: cs => scan.width c + columnsFrom (scan.next c) cs

/-- The columns of a text; a stray byte takes one. -/
def columns (text : Bytes) : Nat :=
  columnsFrom .plain (chars text)

/-- The columns of each line from where a scan stands. A line feed inside of a control
sequence ends no line.
-/
def lineColumnsFrom : ControlScan → List Char → List Nat
  | _, [] => [0]
  | scan, c :: cs =>
      if scan = .plain && c = '\n' then 0 :: lineColumnsFrom .plain cs
      else
        match lineColumnsFrom (scan.next c) cs with
        | [] => [scan.width c]
        | first :: rest => (scan.width c + first) :: rest

/-- The columns of the widest line of a text. -/
def maxColumns (text : Bytes) : Nat :=
  (lineColumnsFrom .plain (chars text)).foldl max 0

end IppXml
