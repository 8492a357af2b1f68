import IppXml.Text.Blank
import IppXml.Text.Case
import IppXml.Text.Decimal
import IppXml.Text.Wrap

/-! Tables as texts: a title, a header and rows in a frame of ASCII signs.

Every line of a table takes the same number of columns. Cells with several lines make the
row as high as its highest cell; a title that is too long is broken into lines.
-/

namespace IppXml

/-- The content of a cell. -/
inductive Cell where
  | number (n : Int)
  | text (content : Bytes)
deriving DecidableEq

/-- A table. -/
structure Table where
  title : Bytes
  header : List Bytes
  rows : List (List Cell)
deriving DecidableEq

namespace Table

/-- The space character. -/
def space : UInt8 := 0x20

/-- So many spaces. -/
def spaces (count : Nat) : Bytes :=
  List.replicate count space

/-- The text with four spaces for each tab. -/
def expandTabs (text : Bytes) : Bytes :=
  Bytes.replaceByte 0x09 (spaces 4) text

/-- The text with a line feed for each carriage return that is followed by one. -/
def joinLineEnds : Bytes → Bytes
  | [] => []
  | b :: bs =>
      if b = 0x0D && bs.head? = some 0x0A then joinLineEnds bs
      else b :: joinLineEnds bs

/-- Writes characters over others, from the start of a line. -/
def overwrite (old new : List Char) : List Char :=
  new ++ old.drop new.length

/-- A line as it shows on paper: what follows a carriage return is written over the line.
-/
def settleReturns (line : Bytes) : Bytes :=
  if line.contains 0x0D then ofChars (((chars line).splitOn '\r').foldl overwrite [])
  else line

/-- The text that a cell shows. -/
def cellText : Cell → Bytes
  | .number n => decimal n
  | .text content =>
      let lines := Bytes.lines (joinLineEnds (expandTabs content))
      Bytes.join "\n" (lines.map settleReturns)

/-- The lines of a cell. -/
def cellLines (cell : Cell) : List Bytes :=
  Bytes.lines (cellText cell)

/-- Whether a cell holds a number. -/
def isNumber : Cell → Bool
  | .number _ => true
  | .text _ => false

/-- How lines are placed in a column. -/
inductive Align where
  | left
  | right
deriving DecidableEq

/-- A line placed in a column of the given width. Spaces at the open end do not count. -/
def Align.place (align : Align) (width : Nat) (line : Bytes) : Bytes :=
  match align with
  | left =>
      let kept := (line.reverse.dropWhile (· = space)).reverse
      kept ++ spaces (width - columns kept)
  | right =>
      let kept := line.dropWhile (· = space)
      spaces (width - columns kept) ++ kept

/-- A column of a table: its width and how its lines are placed. -/
structure Column where
  width : Nat
  align : Align
deriving DecidableEq

/-- The column at an index. It is as wide as its widest cell, and numbers are placed to
the right if there is nothing else in the column.
-/
def column (t : Table) (index : Nat) : Column :=
  let cells := t.rows.map fun row => row.getD index (.text [])
  let title := Cell.text (upper (t.header.getD index []))
  {
    width := ((title :: cells).map fun cell => maxColumns (cellText cell)).foldl max 0,
    align := if cells.all isNumber then .right else .left
  }

/-- The columns of a table. -/
def layout (t : Table) : List Column :=
  (List.range t.header.length).map t.column

/-- A part of a line with the border to its right. -/
def padded (part : Bytes) : Bytes :=
  " " ++ part ++ " |"

/-- A line of a table between its borders, from one part for each column. -/
def bordered (parts : List Bytes) : Bytes :=
  utf8 "|" ++ parts.flatMap padded ++ "\n"

/-- One line of a row. Cells without a line there are empty. -/
def rowLine (layout : List Column) (cells : List (List Bytes)) (index : Nat) : Bytes :=
  let place (column : Column) (lines : List Bytes) : Bytes :=
    column.align.place column.width (lines.getD index [])
  bordered (layout.zipWith place cells)

/-- The lines of a row. -/
def rowText (layout : List Column) (row : List Cell) : Bytes :=
  let cells := row.map cellLines
  let height := (cells.map List.length).foldl max 0
  (List.range height).flatMap (rowLine layout cells)

/-- So many dashes and the corner that follows them. -/
def dashes (count : Nat) : Bytes :=
  Bytes.times count "-" ++ utf8 "+"

/-- The line between the header and the rows. -/
def rule (layout : List Column) : Bytes :=
  utf8 "+" ++ layout.flatMap (fun column => dashes (column.width + 2)) ++ "\n"

/-- The columns between the borders, padding and inner borders included. -/
def innerWidth (layout : List Column) : Nat :=
  layout.foldl (fun total column => total + column.width + 3) 0 - 1

/-- The line above the title. -/
def topRule (layout : List Column) : Bytes :=
  utf8 "+" ++ dashes (innerWidth layout) ++ "\n"

/-- The title with the line above it. -/
def titleText (layout : List Column) (title : Bytes) : Bytes :=
  let width := innerWidth layout - 2
  if title = [] then []
  else
    topRule layout
      ++ (wrap width (expandTabs title)).flatMap fun line =>
        bordered [Align.left.place width (trim line)]

/-- The table as a text. -/
def render (t : Table) : Bytes :=
  let layout := t.layout
  titleText layout t.title ++ rule layout
    ++ rowText layout (t.header.map fun name => .text (upper name)) ++ rule layout
    ++ t.rows.flatMap (rowText layout) ++ rule layout

end Table

end IppXml
