import IppXml.Xml.Node

/-! The grammar of documents, over their items, and the reader as its recogniser.

`Content` relates items to the nodes they spell, with matching tags and no attribute given
twice. A well-formed document has a single root element in it and nothing around the root
but white space and what is set aside. The reader finds that root.
-/

namespace IppXml.Xml

/-- The items are the content of an element and spell its nodes. -/
inductive Content : List Markup → List Node → Prop
  | nil : Content [] []
  | text {items nodes} (content : Bytes) (tail : Content items nodes)
    : Content (.text content :: items) (.text content :: nodes)
  | aside {items nodes} (tail : Content items nodes)
    : Content (.aside :: items) nodes
  | leaf {items nodes name attrs} (unique : (attrs.map Attribute.name).Nodup)
    (tail : Content items nodes)
    : Content (.leaf name attrs :: items) (.element name attrs [] :: nodes)
  | element {inner children items nodes name attrs}
    (unique : (attrs.map Attribute.name).Nodup) (inside : Content inner children)
    (tail : Content items nodes)
    : Content (.start name attrs :: (inner ++ .close name :: items))
        (.element name attrs children :: nodes)

/-- What may stand around the root of a document. -/
def Markup.isMisc : Markup → Bool
  | aside => true
  | text content => content.all isSpace
  | _ => false

/-- The input is a well-formed document with the given root. -/
structure WellFormed (input : Bytes) (root : Node) : Prop where
  isElement : root.isElement = true
  items
    : ∃ prolog inside epilog,
        markup input = prolog ++ (inside ++ epilog)
        ∧ prolog.all Markup.isMisc = true
        ∧ Content inside [root]
        ∧ epilog.all Markup.isMisc = true

/-- Content is collected in the innermost open element, by induction over the grammar: an
element inside is opened, collected and closed before the rest is looked at.
-/
theorem Content.ofMarkupIn? {items : List Markup} {nodes : List Node}
    (h : Content items nodes) (e : OpenElement) (outer : List OpenElement)
    (rest : List Markup)
    : Node.ofMarkupIn? (e :: outer) (items ++ rest)
      = Node.ofMarkupIn? ({ e with content := nodes.reverse ++ e.content } :: outer) rest := by
  induction h generalizing e outer rest with
  | nil => rfl
  | text content tail ih =>
      rw [List.cons_append, Node.ofMarkupIn?, ih]
      simp [OpenElement.add]
  | aside tail ih =>
      rw [List.cons_append, Node.ofMarkupIn?, ih]
  | leaf unique tail ih =>
      rw [List.cons_append, Node.ofMarkupIn?, ih]
      simp [OpenElement.add]
  | element unique inside tail insideIH tailIH =>
      rw [List.cons_append, Node.ofMarkupIn?, List.append_assoc, insideIH, List.cons_append,
        Node.ofMarkupIn?, if_pos rfl, tailIH]
      simp [OpenElement.add, OpenElement.toNode]

/-- What stands in front of the root is passed over. -/
theorem ofMarkupIn?_misc {prolog : List Markup} (rest : List Markup)
    (h : prolog.all Markup.isMisc = true)
    : Node.ofMarkupIn? [] (prolog ++ rest) = Node.ofMarkupIn? [] rest := by
  induction prolog with
  | nil => rfl
  | cons item prolog ih =>
      simp only [List.all_cons, Bool.and_eq_true] at h
      cases item with
      | aside => rw [List.cons_append, Node.ofMarkupIn?, ih h.2]
      | text content => rw [List.cons_append, Node.ofMarkupIn?, ih h.2]
      | start _ _ | leaf _ _ | close _ | broken => exact Bool.noConfusion h.1

/-- The first element that content spells is found, whatever follows. -/
theorem Content.ofMarkup? {items : List Markup} {root : Node} {nodes : List Node}
    (h : Content items (root :: nodes)) (isElement : root.isElement = true)
    (rest : List Markup)
    : Node.ofMarkupIn? [] (items ++ rest) = some root := by
  generalize spelled : root :: nodes = all at h
  induction h with
  | nil => exact absurd spelled (List.cons_ne_nil _ _)
  | text content tail ih =>
      rw [(List.cons.inj spelled).1] at isElement
      exact Bool.noConfusion isElement
  | aside tail ih => rw [List.cons_append, Node.ofMarkupIn?, ih spelled]
  | leaf unique tail ih =>
      rw [List.cons_append, Node.ofMarkupIn?, (List.cons.inj spelled).1]
  | element unique inside tail insideIH tailIH =>
      rw [List.cons_append, Node.ofMarkupIn?, List.append_assoc, inside.ofMarkupIn?,
        List.cons_append, Node.ofMarkupIn?, if_pos rfl, (List.cons.inj spelled).1]
      simp [OpenElement.toNode]

/-- The reader finds the root of every well-formed document. -/
theorem WellFormed.read? {input : Bytes} {root : Node} (h : WellFormed input root)
    : Node.read? input = some root := by
  obtain ⟨prolog, inside, epilog, items, before, content, _⟩ := h.items
  rw [Node.read?, Node.ofMarkup?, items, ofMarkupIn?_misc _ before,
    content.ofMarkup? h.isElement]

end IppXml.Xml
