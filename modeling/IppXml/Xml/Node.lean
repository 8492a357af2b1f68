import IppXml.Xml.Markup

/-! Documents as trees. -/

namespace IppXml.Xml

/-- A text or an element with its content. -/
inductive Node where
  | text (content : Bytes)
  | element (name : Name) (attrs : List Attribute) (children : List Node)

/-- An element that is still open, with its content so far, the last node first. -/
structure OpenElement where
  name : Name
  attrs : List Attribute
  content : List Node

namespace OpenElement

/-- The element with one more node. -/
def add (e : OpenElement) (node : Node) : OpenElement :=
  { e with content := node :: e.content }

/-- The finished element. -/
def toNode (e : OpenElement) : Node :=
  .element e.name e.attrs e.content.reverse

end OpenElement

namespace Node

/-- The first element that items spell, inside the open elements, the innermost first.
Tags have to match, and items behind the element are not looked at.
-/
def ofMarkupIn? : List OpenElement → List Markup → Option Node
  | _, [] => none
  | _, .broken :: _ => none
  | stack, .aside :: items => ofMarkupIn? stack items
  | [], .text _ :: items => ofMarkupIn? [] items
  | e :: outer, .text content :: items =>
      ofMarkupIn? (e.add (.text content) :: outer) items
  | stack, .start name attrs :: items => ofMarkupIn? (⟨name, attrs, []⟩ :: stack) items
  | [], .leaf name attrs :: _ => some (.element name attrs [])
  | e :: outer, .leaf name attrs :: items =>
      ofMarkupIn? (e.add (.element name attrs []) :: outer) items
  | [], .close _ :: _ => none
  | [e], .close name :: _ => if e.name = name then some e.toNode else none
  | e :: parent :: outer, .close name :: items =>
      if e.name = name then ofMarkupIn? (parent.add e.toNode :: outer) items else none

/-- The root element of a document. -/
def ofMarkup? (items : List Markup) : Option Node :=
  ofMarkupIn? [] items

/-- The root element of the document that the input begins with. -/
def read? (input : Bytes) : Option Node :=
  ofMarkup? (markup input)

/-- The name of an element without its namespace. -/
def base : Node → Bytes
  | text _ => []
  | element name _ _ => name.base

/-- The value of an attribute, whatever its namespace: the last of several, and empty if
there is none.
-/
def attr (key : Bytes) : Node → Bytes
  | text _ => []
  | element _ attrs _ =>
      ((attrs.reverse.find? (·.name.base = key)).map Attribute.value).getD []

/-- Whether the node is an element. -/
def isElement : Node → Bool
  | text _ => false
  | element .. => true

/-- The elements directly inside an element. -/
def elements : Node → List Node
  | text _ => []
  | element _ _ children => children.filter isElement

/-- The text of a node that is one. -/
def ownText : Node → Bytes
  | text content => content
  | element .. => []

/-- The texts directly inside an element, one after the other. -/
def innerText : Node → Bytes
  | text _ => []
  | element _ _ children => children.flatMap ownText

end Node

end IppXml.Xml
