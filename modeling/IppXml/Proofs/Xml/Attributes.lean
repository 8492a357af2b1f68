import IppXml.Xml.Node

/-! What is read from a document can be carried by one.

Every attribute value passes through the check for character data, so the attributes of the
items, and with them those of all elements of a tree, are texts of XML.
-/

namespace IppXml.Xml

/-- The values are texts that a document can carry. -/
def XmlValues (attrs : List Attribute) : Prop :=
  ∀ attr ∈ attrs, isXmlText attr.value = true

theorem xmlValues_nil
    : XmlValues [] :=
  fun _ member => absurd member List.not_mem_nil

-----------------------------------------------------------------------------------------
-- Items
-----------------------------------------------------------------------------------------

theorem isXmlText_of_charData? {references : Bool} {raw text : Bytes}
    (h : charData? references raw = some text)
    : isXmlText text = true := by
  obtain ⟨parts, _, checked⟩ := Option.bind_eq_some_iff.mp h
  dsimp only at checked
  split at checked
  · next xml =>
      rw [← Option.some.inj checked]
      exact xml
  · exact absurd checked (by simp)

theorem isXmlText_of_readValue? {input value rest : Bytes}
    (h : readValue? input = some (value, rest))
    : isXmlText value = true := by
  cases input with
  | nil => exact absurd h (by simp [readValue?])
  | cons q input =>
      simp only [readValue?] at h
      split at h
      · exact absurd h (by simp)
      obtain ⟨⟨raw, after⟩, _, cut⟩ := Option.bind_eq_some_iff.mp h
      dsimp only at cut
      split at cut
      · exact absurd cut (by simp)
      obtain ⟨text, read, same⟩ := Option.bind_eq_some_iff.mp cut
      rw [← (Prod.mk.inj (Option.some.inj same)).1]
      exact isXmlText_of_charData? read

theorem isXmlText_of_readAttribute? {input rest : Bytes} {attr : Attribute}
    (h : readAttribute? input = some (attr, rest))
    : isXmlText attr.value = true := by
  obtain ⟨_, _, named⟩ := Option.bind_eq_some_iff.mp h
  obtain ⟨_, _, assigned⟩ := Option.bind_eq_some_iff.mp named
  obtain ⟨⟨value, after⟩, read, same⟩ := Option.bind_eq_some_iff.mp assigned
  rw [← (Prod.mk.inj (Option.some.inj same)).1]
  exact isXmlText_of_readValue? read

/-- The attributes of a tag are texts of XML, by induction over the limit. -/
theorem xmlValues_of_readTagRest? {limit : Nat} {input : Bytes} {tag : TagRest}
    (h : readTagRest? limit input = some tag)
    : XmlValues tag.attrs := by
  induction limit generalizing input tag with
  | zero => exact absurd h (by simp [readTagRest?])
  | succ limit ih =>
      rw [readTagRest?] at h
      split at h
      · exact absurd h (by simp)
      split at h
      · rw [← Option.some.inj h]
        exact xmlValues_nil
      split at h
      · obtain ⟨_, _, same⟩ := Option.map_eq_some_iff.mp h
        rw [← same]
        exact xmlValues_nil
      · obtain ⟨⟨first, rest⟩, read, more⟩ := Option.bind_eq_some_iff.mp h
        obtain ⟨others, tail, same⟩ := Option.bind_eq_some_iff.mp more
        rw [← Option.some.inj same]
        intro attr member
        rcases List.mem_cons.mp member with rfl | later
        · exact isXmlText_of_readAttribute? read
        · exact ih tail attr later

/-- The attributes of an item; tags alone have any. -/
def Markup.attrs : Markup → List Attribute
  | start _ attrs | leaf _ attrs => attrs
  | close _ | text _ | aside | broken => []

theorem xmlValues_of_readStart? {input rest : Bytes} {item : Markup}
    (h : readStart? input = some (item, rest))
    : XmlValues item.attrs := by
  obtain ⟨⟨name, after⟩, _, named⟩ := Option.bind_eq_some_iff.mp h
  obtain ⟨tag, read, same⟩ := Option.bind_eq_some_iff.mp named
  rw [← (Prod.mk.inj (Option.some.inj same)).1]
  split <;> exact xmlValues_of_readTagRest? read

/-- Markup behind an exclamation mark has no attributes. -/
theorem attrs_of_readBang? {input rest : Bytes} {item : Markup}
    (h : readBang? input = some (item, rest))
    : item.attrs = [] := by
  cases input with
  | nil => exact absurd h (by simp [readBang?])
  | cons b input =>
      rw [readBang?] at h
      split at h
      · obtain ⟨_, _, comment⟩ := Option.bind_eq_some_iff.mp h
        obtain ⟨_, _, ended⟩ := Option.bind_eq_some_iff.mp comment
        obtain ⟨_, _, same⟩ := Option.bind_eq_some_iff.mp ended
        rw [← (Prod.mk.inj (Option.some.inj same)).1]
        rfl
      split at h
      · obtain ⟨_, _, opened⟩ := Option.bind_eq_some_iff.mp h
        obtain ⟨_, _, ended⟩ := Option.bind_eq_some_iff.mp opened
        obtain ⟨_, _, same⟩ := Option.bind_eq_some_iff.mp ended
        rw [← (Prod.mk.inj (Option.some.inj same)).1]
        rfl
      · obtain ⟨_, _, same⟩ := Option.map_eq_some_iff.mp h
        rw [← (Prod.mk.inj same).1]
        rfl

theorem xmlValues_of_readBracket? {input rest : Bytes} {item : Markup}
    (h : readBracket? input = some (item, rest))
    : XmlValues item.attrs := by
  cases input with
  | nil => exact absurd h (by simp [readBracket?])
  | cons b input =>
      rw [readBracket?] at h
      split at h
      · obtain ⟨_, _, named⟩ := Option.bind_eq_some_iff.mp h
        obtain ⟨_, _, same⟩ := Option.bind_eq_some_iff.mp named
        rw [← (Prod.mk.inj (Option.some.inj same)).1]
        exact xmlValues_nil
      split at h
      · obtain ⟨_, _, target⟩ := Option.bind_eq_some_iff.mp h
        obtain ⟨_, _, ended⟩ := Option.bind_eq_some_iff.mp target
        dsimp only at ended
        split at ended
        · exact absurd ended (by simp)
        rw [← (Prod.mk.inj (Option.some.inj ended)).1]
        exact xmlValues_nil
      split at h
      · rw [attrs_of_readBang? h]
        exact xmlValues_nil
      · exact xmlValues_of_readStart? h

/-- The attributes of every item of a document are texts of XML. -/
theorem xmlValues_of_mem_markup {input : Bytes} {item : Markup} (h : item ∈ markup input)
    : XmlValues item.attrs := by
  obtain ⟨b, rest, rfl⟩ := Text.exists_of_mem_piecesAfter h
  rw [headMarkup]
  split
  · next item after read =>
      rw [readMarkup?] at read
      split at read
      · exact xmlValues_of_readBracket? read
      · obtain ⟨_, _, same⟩ := Option.bind_eq_some_iff.mp read
        rw [← (Prod.mk.inj (Option.some.inj same)).1]
        exact xmlValues_nil
  · exact xmlValues_nil

-----------------------------------------------------------------------------------------
-- Trees
-----------------------------------------------------------------------------------------

/-- The attributes of the node and of all elements inside it are texts of XML. -/
inductive XmlNode : Node → Prop
  | text (content : Bytes) : XmlNode (.text content)
  | element {name attrs children} (values : XmlValues attrs)
    (inside : ∀ child ∈ children, XmlNode child)
    : XmlNode (.element name attrs children)

/-- The open element and what it holds so far have texts of XML as attributes. -/
structure XmlOpen (e : OpenElement) : Prop where
  values : XmlValues e.attrs
  inside : ∀ node ∈ e.content, XmlNode node

theorem XmlOpen.add {e : OpenElement} {node : Node} (h : XmlOpen e) (xml : XmlNode node)
    : XmlOpen (e.add node) := by
  refine ⟨h.values, ?_⟩
  intro other member
  rcases List.mem_cons.mp member with rfl | before
  · exact xml
  · exact h.inside other before

theorem XmlOpen.toNode {e : OpenElement} (h : XmlOpen e)
    : XmlNode e.toNode :=
  .element h.values fun node member => h.inside node (List.mem_reverse.mp member)

theorem xmlNode_leaf {name : Name} {attrs : List Attribute} (h : XmlValues attrs)
    : XmlNode (.element name attrs []) :=
  .element h fun _ member => absurd member List.not_mem_nil

/-- Elements are built from the attributes of items only, by induction over the items. -/
theorem xmlNode_of_ofMarkupIn? {stack : List OpenElement} {items : List Markup} {node : Node}
    (opened : ∀ e ∈ stack, XmlOpen e) (values : ∀ item ∈ items, XmlValues item.attrs)
    (h : Node.ofMarkupIn? stack items = some node)
    : XmlNode node := by
  fun_induction Node.ofMarkupIn? stack items with
  -- the end of the input, broken input, and tags that do not match
  | case1 | case2 | case9 | case11 | case13 => exact absurd h (by simp)
  | case3 stack items ih => exact ih opened (List.forall_mem_cons.mp values).2 h
  | case4 content items ih => exact ih opened (List.forall_mem_cons.mp values).2 h
  | case5 e outer content items ih =>
      obtain ⟨inner, outside⟩ := List.forall_mem_cons.mp opened
      exact ih (List.forall_mem_cons.mpr ⟨inner.add (.text content), outside⟩)
        (List.forall_mem_cons.mp values).2 h
  | case6 stack name attrs items ih =>
      obtain ⟨first, others⟩ := List.forall_mem_cons.mp values
      have started : XmlOpen ⟨name, attrs, []⟩ :=
        ⟨first, fun _ member => absurd member List.not_mem_nil⟩
      exact ih (List.forall_mem_cons.mpr ⟨started, opened⟩) others h
  | case7 name attrs items =>
      rw [← Option.some.inj h]
      exact xmlNode_leaf (List.forall_mem_cons.mp values).1
  | case8 e outer name attrs items ih =>
      obtain ⟨inner, outside⟩ := List.forall_mem_cons.mp opened
      obtain ⟨first, others⟩ := List.forall_mem_cons.mp values
      exact ih (List.forall_mem_cons.mpr ⟨inner.add (xmlNode_leaf first), outside⟩) others h
  | case10 e items =>
      rw [← Option.some.inj h]
      exact (opened e (by simp)).toNode
  | case12 e parent outer items ih =>
      obtain ⟨inner, outside⟩ := List.forall_mem_cons.mp opened
      obtain ⟨next, rest⟩ := List.forall_mem_cons.mp outside
      exact ih (List.forall_mem_cons.mpr ⟨next.add inner.toNode, rest⟩)
        (List.forall_mem_cons.mp values).2 h

/-- All attributes of a document that is read are texts of XML. -/
theorem xmlNode_of_read? {input : Bytes} {node : Node} (h : Node.read? input = some node)
    : XmlNode node :=
  xmlNode_of_ofMarkupIn? (fun _ member => absurd member List.not_mem_nil)
    (fun _ member => xmlValues_of_mem_markup member) h

theorem XmlNode.isXmlText_attr {node : Node} (h : XmlNode node) (key : Bytes)
    : isXmlText (node.attr key) = true := by
  cases h with
  | text content => rfl
  | element values _ =>
      rw [Node.attr]
      cases found : (List.reverse _).find? _ with
      | none => rfl
      | some attr =>
          exact values attr (List.mem_reverse.mp (List.mem_of_find?_eq_some found))

theorem XmlNode.of_mem_elements {node child : Node} (h : XmlNode node)
    (member : child ∈ node.elements)
    : XmlNode child := by
  cases h with
  | text content => exact absurd member List.not_mem_nil
  | element _ inside => exact inside child (List.mem_filter.mp member).1

end IppXml.Xml
