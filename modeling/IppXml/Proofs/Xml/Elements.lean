import IppXml.Proofs.Xml.Tags
import IppXml.Proofs.Xml.WellFormed

/-! Written elements spell trees: from tags and escaped texts to elements inside elements
with their indentation.
-/

namespace IppXml.Xml

/-- The text is content that spells the nodes, if a tag follows. -/
def WrittenContent (text : Bytes) (nodes : List Node) : Prop :=
  ∃ items,
    Content items nodes
    ∧ ∀ rest, rest.head? = some lessThan → markup (text ++ rest) = items ++ markup rest

/-- The text is that of an element, with the given tree, whatever follows. -/
structure WrittenElement (text : Bytes) (node : Node) : Prop where
  begins : text.head? = some lessThan
  isElement : node.isElement = true
  items : ∃ items, Content items [node] ∧ ∀ rest, markup (text ++ rest) = items ++ markup rest

theorem Content.append {items more : List Markup} {nodes others : List Node}
    (h : Content items nodes) (h' : Content more others)
    : Content (items ++ more) (nodes ++ others) := by
  induction h with
  | nil => exact h'
  | text content _ ih => exact .text content ih
  | aside _ ih => exact .aside ih
  | leaf unique _ ih => exact .leaf unique ih
  | element unique inside _ _ ih =>
      rw [List.cons_append, List.append_assoc]
      exact .element unique inside ih

theorem head?_append_tag {text : Bytes} (rest : Bytes) (h : text.head? = some lessThan)
    : (text ++ rest).head? = some lessThan := by
  rw [List.head?_append, h]
  rfl

theorem WrittenContent.nil
    : WrittenContent [] [] :=
  ⟨[], .nil, fun _ _ => rfl⟩

/-- A text without tags is content of a single node. -/
theorem WrittenContent.text {text content : Bytes} (nonempty : text ≠ [])
    (plain : lessThan ∉ text) (read : contentText? text = some content)
    : WrittenContent text [.text content] := by
  refine ⟨[.text content], .text content .nil, ?_⟩
  intro rest tag
  refine markup_text nonempty plain read ?_
  intro b member
  rw [tag] at member
  exact (Option.some.inj member).symm

/-- Content in front of content that begins with a tag. -/
theorem WrittenContent.append {text more : Bytes} {nodes others : List Node}
    (h : WrittenContent text nodes) (begins : more.head? = some lessThan)
    (h' : WrittenContent more others)
    : WrittenContent (text ++ more) (nodes ++ others) := by
  obtain ⟨items, content, read⟩ := h
  obtain ⟨items', content', read'⟩ := h'
  refine ⟨items ++ items', content.append content', ?_⟩
  intro rest tag
  rw [List.append_assoc, read _ (head?_append_tag rest begins), read' rest tag,
    List.append_assoc]

/-- An element in front of any content. -/
theorem WrittenElement.append {text more : Bytes} {node : Node} {others : List Node}
    (h : WrittenElement text node) (h' : WrittenContent more others)
    : WrittenContent (text ++ more) (node :: others) := by
  obtain ⟨items, content, read⟩ := h.items
  obtain ⟨items', content', read'⟩ := h'
  refine ⟨items ++ items', content.append content', ?_⟩
  intro rest tag
  rw [List.append_assoc, read, read' rest tag, List.append_assoc]

-----------------------------------------------------------------------------------------
-- Texts inside elements
-----------------------------------------------------------------------------------------

/-- The content of an element that holds a text alone; there is none if nothing is
written.
-/
def textNodes (text : Bytes) : List Node :=
  if escape text = [] then [] else [.text (carried text)]

theorem WrittenContent.escape (text : Bytes)
    : WrittenContent (escape text) (textNodes text) := by
  rw [textNodes]
  split
  · next empty =>
      rw [empty]
      exact .nil
  · next nonempty =>
      exact .text nonempty (not_mem_escape (by decide) text) (contentText?_escape text)

theorem flatMap_ownText_textNodes (text : Bytes)
    : (textNodes text).flatMap Node.ownText = carried text := by
  rw [textNodes]
  split
  · next empty =>
      have read := spelled?_escape text
      rw [empty] at read
      exact Option.some.inj read
  · simp [Node.ownText]

-----------------------------------------------------------------------------------------
-- Elements inside elements
-----------------------------------------------------------------------------------------

/-- Indentation that a reader takes for space between tags. -/
def IsIndent (indent : Bytes) : Prop :=
  ∀ b ∈ indent, b = 0x20 ∨ b = 0x09

/-- The node of a line break, if lines are broken. -/
def breakNodes (indent : Bytes) (depth : Nat) : List Node :=
  if indent = [] then [] else [.text (lineBreak indent depth)]

/-- The content of an element that holds elements. -/
def nestedNodes (indent : Bytes) (depth : Nat) (children : List Node) : List Node :=
  if children = [] then []
  else
    children.flatMap (fun child => breakNodes indent (depth + 1) ++ [child])
      ++ breakNodes indent depth

theorem mem_lineBreak {indent : Bytes} {depth : Nat} {b : UInt8} (h : IsIndent indent)
    (member : b ∈ lineBreak indent depth)
    : b = 0x0A ∨ b = 0x20 ∨ b = 0x09 := by
  rw [lineBreak] at member
  split at member
  · exact absurd member List.not_mem_nil
  rcases List.mem_append.mp member with feed | space
  · exact Or.inl (List.mem_singleton.mp feed)
  · rw [Bytes.times, List.mem_flatten] at space
    obtain ⟨line, copy, inside⟩ := space
    rw [List.eq_of_mem_replicate copy] at inside
    exact Or.inr (h b inside)

theorem WrittenContent.lineBreak {indent : Bytes} (depth : Nat) (h : IsIndent indent)
    : WrittenContent (lineBreak indent depth) (breakNodes indent depth) := by
  by_cases empty : indent = []
  · rw [breakNodes, Xml.lineBreak, if_pos empty, if_pos empty]
    exact .nil
  · rw [breakNodes, if_neg empty]
    refine .text ?_ ?_ (contentText?_space fun b member => mem_lineBreak h member)
    · simp [Xml.lineBreak, empty, utf8]
    · intro member
      rcases mem_lineBreak h member with tag | tag | tag <;> exact absurd tag (by decide)

/-- Elements on lines of their own are content, by induction over them. -/
theorem WrittenContent.nested {α : Type} {text : α → Bytes} {node : α → Node}
    {children : List α} {indent : Bytes} (depth : Nat) (h : IsIndent indent)
    (written : ∀ child ∈ children, WrittenElement (text child) (node child))
    : WrittenContent (nested indent depth (children.map text))
        (nestedNodes indent depth (children.map node)) := by
  -- without the check for no elements at all the statement is one of lists
  have lines : WrittenContent
      ((children.map text).flatMap (Xml.lineBreak indent (depth + 1) ++ ·)
        ++ Xml.lineBreak indent depth)
      ((children.map node).flatMap (fun child => breakNodes indent (depth + 1) ++ [child])
        ++ breakNodes indent depth) := by
    induction children with
    | nil => exact .lineBreak depth h
    | cons child children ih =>
        have first := written child (by simp)
        have tail := ih fun other member => written other (by simp [member])
        have line := (WrittenContent.lineBreak (depth + 1) h).append
          (head?_append_tag _ first.begins) (first.append tail)
        simpa only [List.map_cons, List.flatMap_cons, List.append_assoc,
          List.cons_append, List.nil_append] using line
  cases children with
  | nil => exact .nil
  | cons child children => simpa [Xml.nested, nestedNodes] using lines

/-- Content between the tags of an element makes the element. -/
theorem WrittenContent.element {name inner : Bytes} {attrs : List (Bytes × Bytes)}
    {children : List Node} (h : WrittenContent inner children) (plain : IsPlainName name)
    (names : ∀ entry ∈ attrs, IsPlainName entry.1) (unique : (attrs.map Prod.fst).Nodup)
    : WrittenElement (startTag name attrs ++ inner ++ endTag name)
        (.element ⟨[], name⟩ (carriedAttributes attrs) children) := by
  obtain ⟨items, content, read⟩ := h
  have begins (rest : Bytes) : (endTag name ++ rest).head? = some lessThan := rfl
  refine ⟨?_, rfl, ?_⟩
  · rw [List.append_assoc]
    exact head?_append_tag _ rfl
  · have keys : ((carriedAttributes attrs).map Attribute.name).Nodup := by
      have named : (carriedAttributes attrs).map Attribute.name
          = (attrs.map Prod.fst).map (Name.mk []) := by
        simp [carriedAttributes, carriedAttribute]
      rw [named]
      refine List.pairwise_map.mpr (List.Pairwise.imp ?_ unique)
      exact fun differ same => differ (Name.mk.inj same).2
    refine ⟨_, .element keys content .nil, ?_⟩
    intro rest
    rw [List.append_assoc, List.append_assoc, markup_startTag _ plain names, read _ (begins rest),
      markup_endTag rest plain]
    simp

-----------------------------------------------------------------------------------------
-- Lines
-----------------------------------------------------------------------------------------

theorem IsPlainName.lineFeed_not_mem {name : Bytes} (h : IsPlainName name)
    : 0x0A ∉ name := by
  intro member
  exact Bool.noConfusion (h.bytes 0x0A member)

/-- The tags of an element stay on the line they begin on. -/
theorem lineFeed_not_mem_element {name inner : Bytes} {attrs : List (Bytes × Bytes)}
    (plain : IsPlainName name) (names : ∀ entry ∈ attrs, IsPlainName entry.1)
    (h : 0x0A ∉ inner)
    : 0x0A ∉ startTag name attrs ++ inner ++ endTag name := by
  have plainName := plain.lineFeed_not_mem
  have value (text : Bytes) : 0x0A ∉ escape text := not_mem_escape (by decide) text
  have attributes : 0x0A ∉ attributesText attrs := by
    rw [attributesText, List.mem_flatMap]
    intro given
    obtain ⟨⟨key, text⟩, member, inside⟩ := given
    have plainKey := (names (key, text) member).lineFeed_not_mem
    have written := attributeText_append key text []
    rw [List.append_nil] at written
    simp [written, plainKey, value] at inside
  have brackets : 0x0A ∉ utf8 "<" ∧ 0x0A ∉ utf8 "</" ∧ 0x0A ∉ utf8 ">" := by decide
  rw [attributesText] at attributes
  simp [startTag, endTag, plainName, attributes, h, brackets]

/-- Without indentation, elements stand one behind the other. -/
theorem lineFeed_not_mem_nested {depth : Nat} {children : List Bytes}
    (h : ∀ child ∈ children, 0x0A ∉ child)
    : 0x0A ∉ nested [] depth children := by
  intro member
  rw [nested] at member
  split at member
  · exact List.not_mem_nil member
  · simp only [Xml.lineBreak, if_true, List.nil_append, List.append_nil, List.mem_flatMap]
      at member
    obtain ⟨child, inside, feed⟩ := member
    exact h child inside feed

end IppXml.Xml
