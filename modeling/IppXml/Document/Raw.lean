import IppXml.Document
import IppXml.Fault
import IppXml.Xml.Node

/-! Raw programs: what a document says, before anything about it is checked.

A raw program has the elements of a document on three levels, with the attributes that
matter there as texts. It is what documents are written from and read into.
-/

namespace IppXml

/-- An element on the third level. -/
structure RawArgument where
  name : Bytes
  type : Bytes
  text : Bytes
deriving DecidableEq

/-- An element on the second level. -/
structure RawInstruction where
  name : Bytes
  order : Bytes
  opcode : Bytes
  args : List RawArgument
deriving DecidableEq

/-- A root element. -/
structure RawProgram where
  name : Bytes
  language : Bytes
  children : List RawInstruction
deriving DecidableEq

/-- The view of an element as an argument. -/
def RawArgument.ofNode (node : Xml.Node) : RawArgument :=
  { name := node.base, type := node.attr "type", text := node.innerText }

/-- The view of an element as an instruction. -/
def RawInstruction.ofNode (node : Xml.Node) : RawInstruction :=
  {
    name := node.base,
    order := node.attr "order",
    opcode := node.attr "opcode",
    args := node.elements.map RawArgument.ofNode
  }

/-- The view of a root element as a program. -/
def RawProgram.ofNode (node : Xml.Node) : RawProgram :=
  {
    name := node.base,
    language := node.attr "language",
    children := node.elements.map RawInstruction.ofNode
  }

/-- Reads a document; there is none if the input is not well-formed up to the end of a
root element.
-/
def RawProgram.read? (input : Bytes) : Option RawProgram :=
  (Xml.Node.read? input).map RawProgram.ofNode

/-- The element of an argument. -/
def Argument.raw (a : Argument) : RawArgument :=
  { name := argumentElement a.position, type := a.type, text := a.value }

/-- The element of an instruction. -/
def Instruction.raw (i : Instruction) : RawInstruction :=
  {
    name := "instruction",
    order := decimal i.order,
    opcode := i.opcode,
    args := i.args.map Argument.raw
  }

/-- The root element of a document. -/
def Document.raw (doc : Document) : RawProgram :=
  {
    name := "program",
    language := doc.language,
    children := doc.instructions.map Instruction.raw
  }

end IppXml
