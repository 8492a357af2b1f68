import IppXml.Document.Raw

/-! Documents as texts. -/

namespace IppXml

namespace Xml

/-- The declaration in the first line of a document. -/
def declarationLine : Bytes :=
  "<?xml version=\"1.0\" encoding=\"UTF-8\"?>\n"

/-- An attribute with the space in front of it. -/
def attributeText (key value : Bytes) : Bytes :=
  " " ++ key ++ "=\"" ++ escape value ++ "\""

/-- A start tag. -/
def startTag (name : Bytes) (attrs : List (Bytes × Bytes)) : Bytes :=
  "<" ++ name ++ attrs.flatMap (fun (key, value) => attributeText key value) ++ ">"

/-- An end tag. -/
def endTag (name : Bytes) : Bytes :=
  "</" ++ name ++ ">"

/-- What stands in front of a tag on a line of its own. Without indentation there are no
lines.
-/
def lineBreak (indent : Bytes) (depth : Nat) : Bytes :=
  if indent = [] then [] else "\n" ++ indent.times depth

/-- Elements inside an element at the given depth, each on a line of its own. -/
def nested (indent : Bytes) (depth : Nat) (children : List Bytes) : Bytes :=
  if children = [] then []
  else children.flatMap (lineBreak indent (depth + 1) ++ ·) ++ lineBreak indent depth

end Xml

open Xml (startTag endTag nested)

/-- The text of an element on the third level. -/
def RawArgument.render (a : RawArgument) : Bytes :=
  startTag a.name [("type", a.type)] ++ Xml.escape a.text ++ endTag a.name

/-- The text of an element on the second level. -/
def RawInstruction.render (indent : Bytes) (i : RawInstruction) : Bytes :=
  startTag i.name [("order", i.order), ("opcode", i.opcode)]
    ++ nested indent 1 (i.args.map RawArgument.render) ++ endTag i.name

/-- The text of a root element. -/
def RawProgram.render (indent : Bytes) (p : RawProgram) : Bytes :=
  startTag p.name [("language", p.language)]
    ++ nested indent 0 (p.children.map (RawInstruction.render indent)) ++ endTag p.name

/-- The text of a document: the declaration and the root element, with `indent` in front
of a tag for each level. The empty indentation puts the root element on a single line.
-/
def Document.render (indent : Bytes) (doc : Document) : Bytes :=
  Xml.declarationLine ++ doc.raw.render indent ++ "\n"

end IppXml
