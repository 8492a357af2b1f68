import IppXml.Table
import IppXml.Text.Template
import IppXml.Verification.Issue

/-! Reports: the listing of a document and the issues with it. -/

namespace IppXml

/-- A document and the issues with it. -/
structure Report where
  language : Bytes
  instructions : List Instruction
  issues : List Issue

namespace Report

/-- The report on a document. -/
def ofDocument (doc : Document) (issues : List Issue) : Report :=
  { language := doc.language, instructions := doc.instructions, issues }

/-- Whether there are no issues. -/
def isOk (r : Report) : Bool :=
  r.issues.isEmpty

/-- An argument as it is listed. A string constant with escapes is followed by the text it
stands for.
-/
def describe (a : Argument) : Bytes :=
  if a.type ≠ ArgType.string.name then a.text
  else
    match Escape.decode a.value with
    | .error _ => a.text
    | .ok decoded =>
        if decoded = a.value then a.text else a.text ++ " (" ++ quote decoded ++ ")"

/-- The names of the columns. -/
def header : List Bytes :=
  ["Order", "Opcode", "Arg1", "Arg2", "Arg3"]

/-- The cell of the argument at a position; positions are 64-bit integers. -/
def cellIndex (position : Int) : Int :=
  (1 + position).bmod 0x10000000000000000

/-- Puts an argument into its cell. It is a defect if the row has no such cell. -/
def placeArgument (row : List Cell) (a : Argument) : Except Defect (List Cell) :=
  let index := cellIndex a.position
  if 0 ≤ index && index < row.length then .ok (row.set index.toNat (.text (describe a)))
  else .error (.outOfRange index row.length)

/-- The row of an instruction. -/
def row (i : Instruction) : Except Defect (List Cell) :=
  i.args.foldlM placeArgument
    [.number i.order, .text i.opcode, .text [], .text [], .text []]

/-- The rows of instructions. -/
def rows : List Instruction → Except Defect (List (List Cell))
  | [] => .ok []
  | i :: rest => do
      let first ← row i
      let others ← rows rest
      return first :: others

/-- The title of the listing. It is a template, and there is nothing to put into it, so a
percent sign in the language does not stand for itself.
-/
def title (r : Report) : Bytes :=
  fillNothing
    (r.language ++ " program, " ++ decimalNat r.instructions.length ++ " instructions")

/-- The line of an issue. -/
def issueLine (issue : Issue) : Bytes :=
  if issue.order < 0 then "  [" ++ issue.type ++ "] " ++ issue.message ++ "\n"
  else
    "  [" ++ issue.type ++ " order=" ++ decimal issue.order ++ "] " ++ issue.message
      ++ "\n"

/-- The part of the report about issues. -/
def issueText (r : Report) : Bytes :=
  if r.isOk then "✓ No issues found\n"
  else
    "⚠ Found " ++ decimalNat r.issues.length ++ " issues:\n" ++ Bytes.times 60 "-" ++ "\n"
      ++ r.issues.flatMap issueLine

/-- The report as a text. -/
def render (r : Report) : Except Defect Bytes :=
  (rows r.instructions).map fun rows =>
    Table.render { title := r.title, header, rows } ++ "\n" ++ r.issueText

end Report

end IppXml
