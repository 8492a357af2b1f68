import IppXml.Instruction

/-! Documents: the instructions of a program, tagged with its language. -/

namespace IppXml

/-- A program as a document. -/
structure Document where
  language : Bytes
  instructions : List Instruction
deriving DecidableEq

namespace Document

/-- The document without instructions. -/
def empty (language : Bytes) : Document :=
  { language, instructions := [] }

/-- The number of instructions. -/
def size (doc : Document) : Nat :=
  doc.instructions.length

/-- The instruction as it is stored by `push`: its order is its place. -/
def numbered (doc : Document) (i : Instruction) : Instruction :=
  { i with order := doc.size + 1 }

/-- Adds an instruction at the end. -/
def push (doc : Document) (i : Instruction) : Document :=
  { doc with instructions := doc.instructions ++ [doc.numbered i] }

/-- A document of instructions, numbered from one. -/
def ofList (language : Bytes) (instructions : List Instruction) : Document :=
  instructions.foldl push (empty language)

@[simp] theorem instructions_push (doc : Document) (i : Instruction)
    : (doc.push i).instructions = doc.instructions ++ [doc.numbered i] := by
  rfl

@[simp] theorem language_push (doc : Document) (i : Instruction)
    : (doc.push i).language = doc.language := by
  rfl

@[simp] theorem size_push (doc : Document) (i : Instruction)
    : (doc.push i).size = doc.size + 1 := by
  simp [size]

end Document

end IppXml
